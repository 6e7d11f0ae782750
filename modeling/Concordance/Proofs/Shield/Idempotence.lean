import Concordance.Proofs.Shield.Lines
import Mathlib.Data.List.Forall2

/-!
# Shielding twice is shielding once

Each step of the shield leaves its own output alone, and no step disturbs the lines on which
another one rests:

* `shieldPieces_idem`, `markFrom_idem` and `shieldBulletsFrom_idem` treat one step each;
* `forall₂_markFrom` and `forall₂_shieldBullets` say what a step may make of a line;
* `markFrom_eq_self_of_alike` says that shielding the bullets of nested code shows the search of
  continuation paragraphs nothing new: it comes by the same lines in the same states;
* `shieldLines_idem` puts them together for lines, and the last theorem for texts.
-/

namespace Concordance.Shield

open Text

/-! ## Rows -/

theorem pipe_not_mem_pipeSentinel : '|' ∉ pipeSentinel := by decide

theorem shieldPieces_idem (inside : Bool) (ps : List Text) :
    shieldPieces inside (shieldPieces inside ps) = shieldPieces inside ps := by
  fun_induction shieldPieces inside ps with
  | case1 => rfl
  | case2 => rfl
  | case3 inside p q ps ih =>
    obtain ⟨q', ps', hq⟩ : ∃ q' ps', shieldPieces (!inside) (q :: ps) = q' :: ps' := by
      cases ps <;> exact ⟨_, _, rfl⟩
    rw [hq] at ih ⊢
    rw [shieldPieces, ih]
    cases inside with
    | false => rfl
    | true => simp [replaceChar_idem pipe_not_mem_pipeSentinel]

theorem mem_shieldPieces {inside : Bool} {ps : List Text} {p : Text} {c : Char}
    (hp : p ∈ shieldPieces inside ps) (hc : c ∈ p) : c ∈ pipeSentinel ∨ ∃ q ∈ ps, c ∈ q := by
  fun_induction shieldPieces inside ps with
  | case1 => simp at hp
  | case2 => exact Or.inr ⟨p, hp, hc⟩
  | case3 inside p' q ps ih =>
    rcases List.mem_cons.1 hp with rfl | hp
    · split at hc
      · rcases mem_replaceChar hc with h | h
        · exact Or.inl h
        · exact Or.inr ⟨p', List.mem_cons_self, h⟩
      · exact Or.inr ⟨p', List.mem_cons_self, hc⟩
    · rcases ih hp with h | ⟨r, hr, h⟩
      · exact Or.inl h
      · exact Or.inr ⟨r, List.mem_cons_of_mem _ hr, h⟩

theorem shieldPieces_ne_nil {inside : Bool} {ps : List Text} (h : ps ≠ []) :
    shieldPieces inside ps ≠ [] := by
  fun_cases shieldPieces inside ps with
  | case1 => exact absurd rfl h
  | case2 => simp
  | case3 => simp

theorem isLine_shieldPipes {line : Text} (h : IsLine line) : IsLine (shieldPipes line) := by
  rw [shieldPipes]
  split
  · refine isLine_of_subset fun c hc => ?_
    rcases mem_joinWith hc with hc | ⟨p, hp, hc⟩
    · exact ⟨['\x60'], ⟨by decide, by decide⟩, hc⟩
    · rcases mem_shieldPieces hp hc with hc | ⟨q, hq, hc⟩
      · exact ⟨_, isLine_sentinels.1, hc⟩
      · exact ⟨line, h, mem_of_mem_splitOn hq hc⟩
  · exact h

/-- A shielded row has the backticks that it had, so it is cut into as many pieces again. -/
theorem shieldPipes_idem (line : Text) : shieldPipes (shieldPipes line) = shieldPipes line := by
  by_cases h : line.head? = some '|'
  · have htick : ∀ p ∈ shieldPieces false (splitOn '\x60' line), '\x60' ∉ p := by
      intro p hp hc
      rcases mem_shieldPieces hp hc with hc | ⟨q, hq, hc⟩
      · exact absurd hc (by decide)
      · exact sep_not_mem_splitOn hq hc
    have hne : shieldPieces false (splitOn '\x60' line) ≠ [] :=
      shieldPieces_ne_nil (splitOn_ne_nil _ _)
    rw [shieldPipes.eq_1 line, if_pos h, shieldPipes]
    split
    · rw [splitOn_joinWith hne htick, shieldPieces_idem]
    · rfl
  · rw [shieldPipes_of_head_ne h, shieldPipes_of_head_ne h]

/-! ## Lines side by side -/

/-- Each line on the right stands beside one on the left. -/
theorem exists_mem_of_forall₂ {R : Text → Text → Prop} {ls ms : List Text}
    (h : List.Forall₂ R ls ms) {m : Text} (hm : m ∈ ms) : ∃ l ∈ ls, R l m := by
  induction h with
  | nil => exact absurd hm List.not_mem_nil
  | @cons l m' ls ms hlm _ ih =>
    rcases List.mem_cons.1 hm with rfl | hm
    · exact ⟨l, List.mem_cons_self, hlm⟩
    · obtain ⟨l', hl', h⟩ := ih hm
      exact ⟨l', List.mem_cons_of_mem _ hl', h⟩

/-! ## Continuation paragraphs -/

theorem markFrom_cons_cons (level : Level) (line next : Text) (rest : List Text) :
    markFrom level (line :: next :: rest) =
      match level.opens line with
      | some level' =>
        if isBlankText next then line :: next :: markFrom level' rest
        else line :: markFrom level' (next :: rest)
      | Option.none =>
        (if level.continuesFirst line then marked line else line) ::
          markFrom .none (next :: rest) :=
  rfl

/-- The first line stays or is marked, and in neither case becomes blank. -/
theorem markFrom_cons (level : Level) (line : Text) (rest : List Text) :
    ∃ line' rest', markFrom level (line :: rest) = line' :: rest' ∧
      (isBlankText line = false → isBlankText line' = false) := by
  cases rest with
  | nil => exact ⟨line, [], rfl, id⟩
  | cons next rest =>
    rw [markFrom_cons_cons]
    split
    · split
      · exact ⟨_, _, rfl, id⟩
      · exact ⟨_, _, rfl, id⟩
    · refine ⟨_, _, rfl, fun h => ?_⟩
      split
      · exact isBlankText_marked line
      · exact h

theorem markFrom_idem (level : Level) (ls : List Text) :
    markFrom level (markFrom level ls) = markFrom level ls := by
  fun_induction markFrom level ls with
  | case1 => rfl
  | case2 => rfl
  | case3 level line next rest level' ho hb ih =>
    rw [markFrom_cons_cons, ho]
    simp only [hb, if_true, ih]
  | case4 level line next rest level' ho hb ih =>
    obtain ⟨next', rest', hm, hblank⟩ := markFrom_cons level' next rest
    have hb' : isBlankText next' = false := hblank (by simpa using hb)
    rw [hm] at ih ⊢
    rw [markFrom_cons_cons, ho]
    simp only [hb', ih, Bool.false_eq_true, if_false]
  | case5 level line next rest ho ih =>
    obtain ⟨next', rest', hm, -⟩ := markFrom_cons .none next rest
    rw [hm] at ih ⊢
    rw [markFrom_cons_cons]
    by_cases hc : level.continuesFirst line = true
    · rw [if_pos hc, ← marked, opens_marked]
      simp only [continuesFirst_marked, Bool.false_eq_true, if_false, ih]
    · rw [if_neg hc, ho]
      simp only [hc, if_false, ih, Bool.false_eq_true]

/-- The lines that come out are those that went in, some of them marked. -/
theorem forall₂_markFrom (level : Level) (ls : List Text) :
    List.Forall₂ (fun l l' => l' = l ∨ ∃ c t, c ≠ ' ' ∧ l = spaces 3 ++ c :: t ∧ l' = marked l)
      ls (markFrom level ls) := by
  fun_induction markFrom level ls with
  | case1 => exact .nil
  | case2 level line => exact .cons (Or.inl rfl) .nil
  | case3 level line next rest level' ho hb ih => exact .cons (Or.inl rfl) (.cons (Or.inl rfl) ih)
  | case4 level line next rest level' ho hb ih => exact .cons (Or.inl rfl) ih
  | case5 level line next rest ho ih =>
    refine .cons ?_ ih
    split
    · rename_i hc
      obtain ⟨c, t, ht, hspace⟩ := exists_append_of_continuesFirst hc
      exact Or.inr ⟨c, t, hspace, ht, rfl⟩
    · exact Or.inl rfl

theorem mem_markFrom {level : Level} {ls : List Text} {line : Text}
    (h : line ∈ markFrom level ls) :
    line ∈ ls ∨ ∃ l ∈ ls, line = marked l := by
  obtain ⟨l, hl, rfl | ⟨c, t, -, -, rfl⟩⟩ := exists_mem_of_forall₂ (forall₂_markFrom level ls) h
  · exact Or.inl hl
  · exact Or.inr ⟨l, hl, rfl⟩

theorem markFrom_ne_nil {level : Level} {ls : List Text} (h : ls ≠ []) :
    markFrom level ls ≠ [] := by
  cases ls with
  | nil => exact absurd rfl h
  | cons line rest =>
    obtain ⟨line', rest', hm, -⟩ := markFrom_cons level line rest
    simp [hm]

/-! ## Bullets in nested code -/

theorem shieldBulletsFrom_cons (inside : Bool) (line : Text) (rest : List Text) :
    shieldBulletsFrom inside (line :: rest) =
      if isNestedFence line then line :: shieldBulletsFrom (!inside) rest
      else (if inside && isCodeBullet line && rest.any isNestedFence then
        shielded line else line) ::
        shieldBulletsFrom inside rest := rfl

/-- Fences stay where they are. -/
theorem any_isNestedFence_shieldBulletsFrom (inside : Bool) (ls : List Text) :
    (shieldBulletsFrom inside ls).any isNestedFence = ls.any isNestedFence := by
  induction ls generalizing inside with
  | nil => rfl
  | cons line rest ih =>
    rw [shieldBulletsFrom_cons]
    split
    · rw [List.any_cons, List.any_cons, ih]
    · rename_i hf
      rw [List.any_cons, List.any_cons, ih]
      split
      · rw [isNestedFence_shielded, Bool.eq_false_iff.2 hf]
      · rfl

theorem shieldBulletsFrom_idem (inside : Bool) (ls : List Text) :
    shieldBulletsFrom inside (shieldBulletsFrom inside ls) = shieldBulletsFrom inside ls := by
  induction ls generalizing inside with
  | nil => rfl
  | cons line rest ih =>
    rw [shieldBulletsFrom_cons]
    by_cases hf : isNestedFence line = true
    · rw [if_pos hf, shieldBulletsFrom_cons, if_pos hf, ih]
    · rw [if_neg hf]
      by_cases hs : (inside && isCodeBullet line && rest.any isNestedFence) = true
      · rw [if_pos hs, shieldBulletsFrom_cons, isNestedFence_shielded, isCodeBullet_shielded, ih]
        simp
      · rw [if_neg hs, shieldBulletsFrom_cons, if_neg hf, any_isNestedFence_shieldBulletsFrom,
          if_neg hs, ih]

theorem shieldBullets_idem (ls : List Text) :
    shieldBullets (shieldBullets ls) = shieldBullets ls := by
  cases ls with
  | nil => rfl
  | cons first rest =>
    rw [shieldBullets, shieldBullets, shieldBulletsFrom_idem]

/-- The lines that come out are those that went in, some bullets of nested code shielded. -/
theorem forall₂_shieldBulletsFrom (inside : Bool) (ls : List Text) :
    List.Forall₂ (fun l l' => l' = l ∨ isCodeBullet l = true ∧ l' = shielded l)
      ls (shieldBulletsFrom inside ls) := by
  induction ls generalizing inside with
  | nil => exact .nil
  | cons line rest ih =>
    rw [shieldBulletsFrom_cons]
    split
    · exact .cons (Or.inl rfl) (ih _)
    · refine .cons ?_ (ih _)
      split
      · rename_i hs
        simp only [Bool.and_eq_true] at hs
        exact Or.inr ⟨hs.1.2, rfl⟩
      · exact Or.inl rfl

theorem forall₂_shieldBullets (ls : List Text) :
    List.Forall₂ (fun l l' => l' = l ∨ isCodeBullet l = true ∧
      l' = shielded l) ls (shieldBullets ls) := by
  cases ls with
  | nil => exact .nil
  | cons first rest => exact .cons (Or.inl rfl) (forall₂_shieldBulletsFrom false rest)

theorem mem_shieldBullets {ls : List Text} {line : Text} (h : line ∈ shieldBullets ls) :
    line ∈ ls ∨ ∃ l ∈ ls, line = shielded l := by
  obtain ⟨l, hl, rfl | ⟨-, rfl⟩⟩ := exists_mem_of_forall₂ (forall₂_shieldBullets ls) h
  · exact Or.inl hl
  · exact Or.inr ⟨l, hl, rfl⟩

/-! ## Bullets and continuation paragraphs -/

/-- Two lines that the search of continuation paragraphs cannot tell apart: they are equal, or mean
nothing to it. -/
def Alike (line line' : Text) : Prop := line' = line ∨ Inert line ∧ Inert line'

theorem alike_shieldBullets (ls : List Text) : List.Forall₂ Alike ls (shieldBullets ls) :=
  (forall₂_shieldBullets ls).imp fun l _ h =>
    h.imp_right fun ⟨hbullet, heq⟩ => ⟨inert_of_isCodeBullet hbullet, heq ▸ inert_shielded l⟩

theorem Alike.opens_eq {line line' : Text} (h : Alike line line') (level : Level) :
    level.opens line' = level.opens line := by
  rcases h with rfl | ⟨h, h'⟩
  · rfl
  · rw [h.opens, h'.opens]

theorem Alike.isBlankText_eq {line line' : Text} (h : Alike line line') :
    isBlankText line' = isBlankText line := by
  rcases h with rfl | ⟨h, h'⟩
  · rfl
  · rw [h.not_blank, h'.not_blank]

theorem Alike.eq_of_opens {line line' : Text} {level level' : Level} (h : Alike line line')
    (ho : level.opens line = some level') : line' = line := by
  rcases h with h | ⟨h, -⟩
  · exact h
  · rw [h.opens] at ho
    exact absurd ho (by simp)

theorem Alike.eq_of_isBlankText {line line' : Text} (h : Alike line line')
    (hb : isBlankText line = true) : line' = line := by
  rcases h with h | ⟨h, -⟩
  · exact h
  · rw [h.not_blank] at hb
    exact absurd hb (by simp)

/-- Where nothing is left to be marked, nothing is left in lines that are alike. -/
theorem markFrom_eq_self_of_alike {level : Level} {ls ls' : List Text}
    (hself : markFrom level ls = ls) (h : List.Forall₂ Alike ls ls') :
    markFrom level ls' = ls' := by
  fun_induction markFrom level ls generalizing ls' with
  | case1 =>
    rw [List.forall₂_nil_left_iff.1 h]
    rfl
  | case2 =>
    obtain ⟨line', rest', -, hnil, rfl⟩ := List.forall₂_cons_left_iff.1 h
    rw [List.forall₂_nil_left_iff.1 hnil]
    rfl
  | case3 level line next rest level' ho hb ih =>
    obtain ⟨line', ls', hline, htail, rfl⟩ := List.forall₂_cons_left_iff.1 h
    obtain ⟨next', rest', hnext, hrest, rfl⟩ := List.forall₂_cons_left_iff.1 htail
    obtain rfl := hline.eq_of_opens ho
    obtain rfl := hnext.eq_of_isBlankText hb
    simp only [List.cons.injEq, true_and] at hself
    rw [markFrom_cons_cons, ho]
    simp only [hb, if_true, ih hself hrest]
  | case4 level line next rest level' ho hb ih =>
    obtain ⟨line', ls', hline, htail, rfl⟩ := List.forall₂_cons_left_iff.1 h
    obtain rfl := hline.eq_of_opens ho
    simp only [List.cons.injEq, true_and] at hself
    have ih := ih hself htail
    obtain ⟨next', rest', hnext, -, rfl⟩ := List.forall₂_cons_left_iff.1 htail
    rw [markFrom_cons_cons, ho, hnext.isBlankText_eq]
    simp only [hb, if_false, ih, Bool.false_eq_true]
  | case5 level line next rest ho ih =>
    obtain ⟨line', ls', hline, htail, rfl⟩ := List.forall₂_cons_left_iff.1 h
    obtain ⟨hhead, hmarked⟩ := List.cons.inj hself
    have ih := ih hmarked htail
    obtain ⟨next', rest', -, -, rfl⟩ := List.forall₂_cons_left_iff.1 htail
    rw [markFrom_cons_cons, hline.opens_eq, ho]
    simp only [ih, List.cons.injEq, and_true]
    rcases hline with rfl | ⟨-, hline'⟩
    · exact hhead
    · rw [hline'.continuesFirst]
      rfl

/-! ## The whole shield -/

/-- Every line that comes out is a row with its bars shielded, or one of the two rewritten
kinds. -/
theorem mem_shieldLines {ls : List Text} {line : Text} (h : line ∈ shieldLines ls) :
    ∃ l ∈ ls, line = shieldPipes l ∨ line = marked (shieldPipes l) ∨
      ∃ m, line = shielded m ∧ (m = shieldPipes l ∨ m = marked (shieldPipes l)) := by
  have hmark : ∀ m ∈ markContinuations (ls.map shieldPipes),
      ∃ l ∈ ls, m = shieldPipes l ∨ m = marked (shieldPipes l) := by
    intro m hm
    rcases mem_markFrom hm with hm | ⟨k, hk, rfl⟩
    · obtain ⟨l, hl, rfl⟩ := List.mem_map.1 hm
      exact ⟨l, hl, Or.inl rfl⟩
    · obtain ⟨l, hl, rfl⟩ := List.mem_map.1 hk
      exact ⟨l, hl, Or.inr rfl⟩
  rcases mem_shieldBullets h with h | ⟨m, hm, rfl⟩
  · obtain ⟨l, hl, h | h⟩ := hmark line h
    · exact ⟨l, hl, Or.inl h⟩
    · exact ⟨l, hl, Or.inr (Or.inl h)⟩
  · obtain ⟨l, hl, h⟩ := hmark m hm
    exact ⟨l, hl, Or.inr (Or.inr ⟨m, rfl, h⟩)⟩

theorem isLine_shieldLines {ls : List Text} (h : ∀ l ∈ ls, IsLine l) :
    ∀ l ∈ shieldLines ls, IsLine l := by
  intro line hline
  obtain ⟨l, hl, rfl | rfl | ⟨m, rfl, rfl | rfl⟩⟩ := mem_shieldLines hline
  · exact isLine_shieldPipes (h l hl)
  · exact isLine_marked (isLine_shieldPipes (h l hl))
  · exact isLine_shielded (isLine_shieldPipes (h l hl))
  · exact isLine_shielded (isLine_marked (isLine_shieldPipes (h l hl)))

theorem shieldLines_ne_nil {ls : List Text} (h : ls ≠ []) : shieldLines ls ≠ [] := by
  obtain ⟨l, rest, hm⟩ : ∃ l rest, markContinuations (ls.map shieldPipes) = l :: rest :=
    List.exists_cons_of_ne_nil (markFrom_ne_nil (by simpa using h))
  rw [shieldLines, hm, shieldBullets]
  exact List.cons_ne_nil _ _

/-- No row is left to be shielded. -/
theorem map_shieldPipes_shieldLines (ls : List Text) :
    (shieldLines ls).map shieldPipes = shieldLines ls := by
  rw [List.map_congr_left (g := id) ?_, List.map_id]
  intro line hline
  obtain ⟨l, -, rfl | rfl | ⟨m, rfl, -⟩⟩ := mem_shieldLines hline
  · exact shieldPipes_idem l
  · exact shieldPipes_marked _
  · exact shieldPipes_shielded m

/-- No continuation paragraph is left to be marked. -/
theorem markContinuations_shieldLines (ls : List Text) :
    markContinuations (shieldLines ls) = shieldLines ls :=
  markFrom_eq_self_of_alike (markFrom_idem .none _) (alike_shieldBullets _)

theorem shieldLines_idem (ls : List Text) : shieldLines (shieldLines ls) = shieldLines ls := by
  rw [shieldLines.eq_1 (shieldLines ls), map_shieldPipes_shieldLines,
    markContinuations_shieldLines]
  exact shieldBullets_idem _

theorem lines_shield (t : Text) : lines (shield t) = shieldLines (lines t) :=
  lines_unlines (shieldLines_ne_nil (lines_ne_nil t))
    (isLine_shieldLines fun _ hl => isLine_of_mem_lines hl)

/-- **Shielding is idempotent**: a text that has been shielded comes back unchanged, whatever it
held before, sentinels and line breaks of every kind included. -/
theorem shield_shield (t : Text) : shield (shield t) = shield t := by
  have hne : shieldLines (lines t) ≠ [] := shieldLines_ne_nil (lines_ne_nil t)
  have hline : ∀ l ∈ shieldLines (lines t), IsLine l :=
    isLine_shieldLines fun l hl => isLine_of_mem_lines hl
  rw [shield, shield, lines_unlines hne hline, shieldLines_idem]

end Concordance.Shield
