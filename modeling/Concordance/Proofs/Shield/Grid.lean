import Concordance.Proofs.Shield.NestedCode

/-!
# The lines of a shielded text

The shield passes over a text three times, and each pass looks at the text in another way: at
single lines, at lines behind one another, at pieces between fences.  Still every line stays where
it is, and what becomes of it is told from the lines of the text alone.

* `shieldPipes_eq`: the bars that are shielded in a row are told one by one, by the backticks
  before and behind.
* `markFrom_map` and `isNestedCodeBullet_iff`: no pass hides anything from the next one, or shows
  it anything new.
* `getElem?_shieldLines`: what the three passes together make of a line.
* `Reshaped` says the same of the four kinds of lines, and the last theorem says it of texts.
-/

namespace Concordance.Shield

open Text

variable {l t : Text} {ls ms : List Text} {i : Nat}

/-! ## The bars of a row -/

/-- A bar inside closed code: behind an odd number of backticks, and before one more. -/
def IsCodeBar (l : Text) (i : Nat) : Prop :=
  l[i]? = some '|' ∧ Odd ((l.take i).count '\x60') ∧ '\x60' ∈ l.drop (i + 1)

instance (l : Text) (i : Nat) : Decidable (IsCodeBar l i) :=
  inferInstanceAs (Decidable (_ ∧ _ ∧ _))

/-- A line with the sentinel in the place of each bar inside closed code. -/
def replaceCodeBars (l : Text) : Text :=
  l.zipIdx.flatMap fun x => if IsCodeBar l x.2 then pipeSentinel else [x.1]

theorem shieldPieces_nil_cons (inside : Bool) {ps : List Text} (hps : ps ≠ []) :
    shieldPieces inside ([] :: ps) = [] :: shieldPieces (!inside) ps := by
  obtain ⟨q, ps, rfl⟩ := List.exists_cons_of_ne_nil hps
  rw [shieldPieces]
  cases inside <;> rfl

/-- One more character in front of the first piece is a bar to be shielded, or stays as it is. -/
theorem joinWith_shieldPieces_consFirst (inside : Bool) (c : Char)
    {ps : List Text} (hps : ps ≠ []) :
    joinWith ['\x60'] (shieldPieces inside (consFirst c ps)) =
      (if c = '|' ∧ inside = true ∧ ps.length ≠ 1 then pipeSentinel else [c]) ++
        joinWith ['\x60'] (shieldPieces inside ps) := by
  obtain ⟨p, ps, rfl⟩ := List.exists_cons_of_ne_nil hps
  cases ps with
  | nil => simp [consFirst, shieldPieces, joinWith]
  | cons q ps =>
    have hrest : shieldPieces (!inside) (q :: ps) ≠ [] :=
      shieldPieces_ne_nil (List.cons_ne_nil q ps)
    rw [consFirst, shieldPieces, shieldPieces, joinWith_cons _ _ hrest, joinWith_cons _ _ hrest]
    cases inside with
    | false => simp
    | true => simp [replaceChar_cons, List.append_assoc]

theorem length_splitOn_ne_one_iff {sep : Char} : (splitOn sep t).length ≠ 1 ↔ sep ∈ t := by
  constructor
  · intro h
    by_contra hsep
    exact h (by rw [splitOn_of_not_mem hsep, List.length_singleton])
  · intro hsep h
    obtain ⟨p, hp⟩ := List.length_eq_one_iff.1 h
    have hjoin : joinWith [sep] [p] = t := hp ▸ joinWith_splitOn sep t
    have hmem : p ∈ splitOn sep t := hp ▸ List.mem_singleton.2 rfl
    rw [← hjoin] at hsep
    exact sep_not_mem_splitOn hmem hsep

theorem isCodeBar_append_cons {before : Text} {c : Char} :
    IsCodeBar (before ++ c :: t) before.length ↔
      c = '|' ∧ decide (Odd (before.count '\x60')) = true ∧ (splitOn '\x60' t).length ≠ 1 := by
  have hdrop : (before ++ c :: t).drop (before.length + 1) = t := by
    rw [List.append_cons, List.drop_left' (by simp)]
  rw [IsCodeBar, List.getElem?_append_right (Nat.le_refl _), Nat.sub_self, List.take_left, hdrop,
    length_splitOn_ne_one_iff, decide_eq_true_iff]
  simp

/-- Behind some text the bars are shielded that stand behind an odd number of backticks in all of
it. -/
theorem joinWith_shieldPieces (before t : Text) :
    joinWith ['\x60'] (shieldPieces (decide (Odd (before.count '\x60'))) (splitOn '\x60' t)) =
      (t.zipIdx before.length).flatMap fun x =>
        if IsCodeBar (before ++ t) x.2 then pipeSentinel else [x.1] := by
  induction t generalizing before with
  | nil => rfl
  | cons c t ih =>
    have ih := ih (before ++ [c])
    rw [List.length_append, List.length_singleton, ← List.append_cons] at ih
    rw [List.zipIdx_cons, List.flatMap_cons, ← ih]
    by_cases hc : c = '\x60'
    · -- A backtick ends a piece, and turns inside to outside.
      have hodd : decide (Odd ((before ++ ['\x60']).count '\x60')) =
          !decide (Odd (before.count '\x60')) := by
        simp [Nat.odd_add_one, -Nat.not_odd_iff_even]
      have hrest := splitOn_ne_nil '\x60' t
      have hne : ¬ IsCodeBar (before ++ '\x60' :: t) before.length := by
        rw [isCodeBar_append_cons]
        exact fun h => absurd h.1 (by decide)
      subst hc
      rw [splitOn, if_pos rfl, shieldPieces_nil_cons _ hrest,
        joinWith_cons _ _ (shieldPieces_ne_nil hrest), hodd, if_neg hne]
      rfl
    · have hodd : (before ++ [c]).count '\x60' = before.count '\x60' := by
        rw [List.count_append, List.count_singleton, if_neg (by simpa using hc), Nat.add_zero]
      rw [splitOn, if_neg hc, joinWith_shieldPieces_consFirst _ _ (splitOn_ne_nil _ _), hodd]
      simp only [isCodeBar_append_cons]

/-- In a row exactly the bars inside closed code are shielded. -/
theorem shieldPipes_eq (h : l.head? = some '|') : shieldPipes l = replaceCodeBars l := by
  rw [shieldPipes, if_pos h]
  exact joinWith_shieldPieces [] l

example : replaceCodeBars "|a\x60|\x60|\x60|".toList =
    "|a\x60ceci_n'est_pas_une_pipe\x60|\x60|".toList := by decide

/-! ## One pass behind another -/

/-- A row stays a row, and another line stays as it is. -/
theorem alike_shieldPipes (l : Text) : Alike l (shieldPipes l) := by
  by_cases h : l.head? = some '|'
  · have hrow : ∀ m : Text, m.head? = some '|' → Inert m := by
      intro m hm
      obtain ⟨m, rfl⟩ := List.head?_eq_some_iff.1 hm
      exact ⟨rfl, rfl, rfl, rfl, by simp [isBlankText, show isBlank '|' = false from rfl]⟩
    exact Or.inr ⟨hrow l h, hrow _ ((rewriting_shieldPipes l).head_eq.trans h)⟩
  · exact Or.inl (shieldPipes_of_head_ne h)

theorem Alike.continuesFirst_eq {l' : Text} (h : Alike l l') (level : Level) :
    level.continuesFirst l' = level.continuesFirst l := by
  rcases h with rfl | ⟨h, h'⟩
  · rfl
  · rw [h.continuesFirst, h'.continuesFirst]

/-- A continuation is no row. -/
theorem marked_shieldPipes {level : Level} (h : level.continuesFirst l = true) :
    marked (shieldPipes l) = shieldPipes (marked l) := by
  obtain ⟨c, t, rfl, -⟩ := exists_append_of_continuesFirst h
  have hself : shieldPipes (spaces 3 ++ c :: t) = spaces 3 ++ c :: t :=
    shieldPipes_of_head_ne (by simp [spaces])
  rw [hself, shieldPipes_marked]

/-- The search for continuations does not see what has been shielded in rows. -/
theorem markFrom_map (level : Level) (ls : List Text) :
    markFrom level (ls.map shieldPipes) = (markFrom level ls).map shieldPipes := by
  fun_induction markFrom level ls with
  | case1 => rfl
  | case2 => rfl
  | case3 level l next rest level' ho hb ih =>
    rw [List.map_cons, List.map_cons, markFrom_cons_cons, (alike_shieldPipes l).opens_eq, ho]
    simp only [(alike_shieldPipes next).isBlankText_eq, hb, if_true, ih, List.map_cons]
  | case4 level l next rest level' ho hb ih =>
    rw [List.map_cons] at ih
    rw [List.map_cons, List.map_cons, markFrom_cons_cons, (alike_shieldPipes l).opens_eq, ho]
    simp only [(alike_shieldPipes next).isBlankText_eq, hb, if_false, ih, List.map_cons,
      Bool.false_eq_true]
  | case5 level l next rest ho ih =>
    rw [List.map_cons] at ih
    rw [List.map_cons, List.map_cons, markFrom_cons_cons, (alike_shieldPipes l).opens_eq, ho]
    simp only [(alike_shieldPipes l).continuesFirst_eq, ih, List.map_cons]
    split
    · rename_i hc
      rw [marked_shieldPipes hc]
      rfl
    · rfl

/-- What the fences and the bullets of nested code look like is not changed by the other passes. -/
def SameCode (l m : Text) : Prop :=
  isNestedFence m = isNestedFence l ∧ isCodeBullet m = isCodeBullet l

theorem sameCode_shieldPipes (l : Text) : SameCode l (shieldPipes l) := by
  by_cases h : l.head? = some '|'
  · have hrow : ∀ m : Text, m.head? = some '|' → isNestedFence m = false ∧
        isCodeBullet m = false := by
      intro m hm
      obtain ⟨m, rfl⟩ := List.head?_eq_some_iff.1 hm
      exact ⟨rfl, rfl⟩
    obtain ⟨hfence, hbullet⟩ := hrow l h
    obtain ⟨hfence', hbullet'⟩ := hrow _ ((rewriting_shieldPipes l).head_eq.trans h)
    exact ⟨hfence'.trans hfence.symm, hbullet'.trans hbullet.symm⟩
  · rw [shieldPipes_of_head_ne h]
    exact ⟨rfl, rfl⟩

theorem isNestedFence_marked (l : Text) : isNestedFence (marked l) = false := rfl

/-- Behind exactly three spaces stands neither a fence nor a bullet of nested code. -/
theorem isNestedFence_of_three_spaces {c : Char} (h : c ≠ ' ') (t : Text) :
    isNestedFence (spaces 3 ++ c :: t) = false ∧ isCodeBullet (spaces 3 ++ c :: t) = false := by
  simp [isNestedFence, isCodeBullet, startsWith, spaces, List.replicate, List.isPrefixOf, h.symm]

theorem forall₂_sameCode (ls : List Text) :
    List.Forall₂ SameCode ls (markContinuations (ls.map shieldPipes)) := by
  have hpipes : List.Forall₂ SameCode ls (ls.map shieldPipes) :=
    List.forall₂_map_right_iff.2 (List.forall₂_same.2 fun l _ => sameCode_shieldPipes l)
  refine forall₂_comp (fun l m n hm hn => ?_) hpipes (forall₂_markFrom .none _)
  rcases hn with rfl | ⟨c, t, hc, rfl, rfl⟩
  · exact hm
  · obtain ⟨hfence, hbullet⟩ := isNestedFence_of_three_spaces hc t
    obtain ⟨hfence', hbullet'⟩ := hm
    exact ⟨(isNestedFence_marked _).trans (hfence.symm.trans hfence'),
      (isCodeBullet_marked _).trans (hbullet.symm.trans hbullet')⟩

/-- What is told alike from related lines, holds at the same indices. -/
theorem lineAt_iff {R : Text → Text → Prop} {p : Text → Prop} (hR : ∀ l m, R l m → (p m ↔ p l))
    (h : List.Forall₂ R ls ms) : LineAt ms i p ↔ LineAt ls i p := by
  induction h generalizing i with
  | nil => rfl
  | @cons l m ls ms hlm _ ih =>
    cases i with
    | zero => simp [LineAt, hR l m hlm]
    | succ i => exact ih

theorem countP_isNestedFence_eq (h : List.Forall₂ SameCode ls ms) :
    ms.countP isNestedFence = ls.countP isNestedFence := by
  induction h with
  | nil => rfl
  | @cons l m ls ms hlm _ ih => simp only [List.countP_cons, ih, hlm.1]

/-- The bullets of nested code are where they were before the other passes. -/
theorem isNestedCodeBullet_iff (h : List.Forall₂ SameCode ls ms) :
    IsNestedCodeBullet ms i ↔ IsNestedCodeBullet ls i := by
  have hfences : fencesBefore ms i = fencesBefore ls i :=
    countP_isNestedFence_eq (List.forall₂_drop 1 (List.forall₂_take i h))
  have hbullets : ∀ {j}, LineAt ms j BeginsCodeBullet ↔ LineAt ls j BeginsCodeBullet :=
    lineAt_iff (fun l m hlm => by rw [← isCodeBullet_iff, ← isCodeBullet_iff, hlm.2]) h
  have hcloses : ∀ {j}, LineAt ms j BeginsNestedFence ↔ LineAt ls j BeginsNestedFence :=
    lineAt_iff (fun l m hlm => by rw [← isNestedFence_iff, ← isNestedFence_iff, hlm.1]) h
  constructor
  · rintro ⟨hfirst, hbullet, hopened, j, hj, hclosed⟩
    exact ⟨hfirst, hbullets.1 hbullet, hfences ▸ hopened, j, hj, hcloses.1 hclosed⟩
  · rintro ⟨hfirst, hbullet, hopened, j, hj, hclosed⟩
    exact ⟨hfirst, hbullets.2 hbullet, hfences ▸ hopened, j, hj, hcloses.2 hclosed⟩

/-! ## The three passes together -/

/-- The second pass marks exactly the continuations of the text as it was. -/
theorem getElem?_markContinuations_map (hline : ls[i]? = some l) :
    (IsContinuation ls i → (markContinuations (ls.map shieldPipes))[i]? = some (marked l)) ∧
      (¬ IsContinuation ls i →
        (markContinuations (ls.map shieldPipes))[i]? = some (shieldPipes l)) := by
  have hmap : (markContinuations (ls.map shieldPipes))[i]? =
      ((markContinuations ls)[i]?).map shieldPipes := by
    rw [markContinuations, markFrom_map, List.getElem?_map, markContinuations]
  rw [hmap]
  constructor
  · intro hcontinues
    rw [getElem?_markContinuations hcontinues hline, Option.map_some, shieldPipes_marked]
  · intro hcontinues
    rw [getElem?_markContinuations_of_not hcontinues hline, Option.map_some]

theorem IsContinuation.hasIndent (h : IsContinuation ls i) (hline : ls[i]? = some l) :
    HasIndent 3 l := by
  obtain ⟨l', hl', hindent, -⟩ := h.line
  obtain rfl := Option.some.inj (hline.symm.trans hl')
  exact hindent

theorem IsNestedCodeBullet.beginsCodeBullet (h : IsNestedCodeBullet ls i)
    (hline : ls[i]? = some l) : BeginsCodeBullet l := by
  obtain ⟨l', hl', hbullet⟩ := h.bullet
  obtain rfl := Option.some.inj (hline.symm.trans hl')
  exact hbullet

/-- Behind four spaces there are more than three. -/
theorem not_beginsCodeBullet_of_indent (h : HasIndent 3 l) : ¬ BeginsCodeBullet l := by
  obtain ⟨c, t, hc, rfl⟩ := h
  rintro ⟨b, -, s, hs⟩
  have hspace : ' ' :: b :: s = c :: t :=
    List.append_cancel_left (show spaces 3 ++ _ = _ by simpa [spaces] using hs)
  exact hc (List.cons.inj hspace).1.symm

theorem head?_of_beginsCodeBullet (h : BeginsCodeBullet l) : l.head? = some ' ' := by
  obtain ⟨b, -, s, rfl⟩ := h
  rfl

/-- What the shield makes of a line: each pass does what it would do alone, and no two passes touch
one line. -/
theorem getElem?_shieldLines (hline : ls[i]? = some l) :
    (shieldLines ls)[i]? = some
      (open Classical in
        if IsContinuation ls i then marked l
        else if IsNestedCodeBullet ls i then shielded l
        else shieldPipes l) := by
  obtain ⟨hmarked, hother⟩ := getElem?_markContinuations_map hline
  have hcode := isNestedCodeBullet_iff (i := i) (forall₂_sameCode ls)
  by_cases hcontinues : IsContinuation ls i
  · have hbullet : ¬ IsNestedCodeBullet ls i := fun h =>
      not_beginsCodeBullet_of_indent (hcontinues.hasIndent hline) (h.beginsCodeBullet hline)
    rw [if_pos hcontinues]
    exact (getElem?_shieldBullets (hmarked hcontinues)).2 (fun h => hbullet (hcode.1 h))
  · rw [if_neg hcontinues]
    by_cases hbullet : IsNestedCodeBullet ls i
    · have hself : shieldPipes l = l := shieldPipes_of_head_ne (by
        rw [head?_of_beginsCodeBullet (hbullet.beginsCodeBullet hline)]
        decide)
      have hshielded := (getElem?_shieldBullets (hother hcontinues)).1 (hcode.2 hbullet)
      rwa [if_pos hbullet, ← hself]
    · rw [if_neg hbullet]
      exact (getElem?_shieldBullets (hother hcontinues)).2 (fun h => hbullet (hcode.1 h))

/-! ## Texts -/

/-- What may become of a line of a document.  Only a row, a line behind three spaces and a bullet
behind four can change, and each in its own way. -/
structure Reshaped (lines : List Text) (i : Nat) (line line' : Text) : Prop where
  row : line.head? = some '|' → line' = replaceCodeBars line
  indented : HasIndent 3 line → line' = line ∨
    IsContinuation lines i ∧ line' = line.take 3 ++ indentSentinel ++ line.drop 3
  bullet : BeginsCodeBullet line → line' = line ∨
    IsNestedCodeBullet lines i ∧ line' = line.take 4 ++ bulletSentinel ++ line.drop 4
  other : line.head? ≠ some '|' → ¬ HasIndent 3 line → ¬ BeginsCodeBullet line → line' = line

theorem reshaped_shieldLines (hline : ls[i]? = some l) :
    ∃ l', (shieldLines ls)[i]? = some l' ∧ Reshaped ls i l l' := by
  refine ⟨_, getElem?_shieldLines hline, ?_⟩
  by_cases hcontinues : IsContinuation ls i
  · have hindent := hcontinues.hasIndent hline
    have htake : marked l = l.take 3 ++ indentSentinel ++ l.drop 3 := by
      obtain ⟨c, t, -, rfl⟩ := hindent
      rfl
    rw [if_pos hcontinues]
    exact {
      row := fun h => by rw [head?_of_indent hindent] at h; cases h
      indented := fun _ => Or.inr ⟨hcontinues, htake⟩
      bullet := fun h => absurd h (not_beginsCodeBullet_of_indent hindent)
      other := fun _ h => absurd hindent h }
  rw [if_neg hcontinues]
  by_cases hcode : IsNestedCodeBullet ls i
  · have hbullet := hcode.beginsCodeBullet hline
    have htake : shielded l = l.take 4 ++ bulletSentinel ++ l.drop 4 := by
      obtain ⟨c, -, t, rfl⟩ := hbullet
      rfl
    rw [if_pos hcode]
    exact {
      row := fun h => by rw [head?_of_beginsCodeBullet hbullet] at h; cases h
      indented := fun h => absurd hbullet (not_beginsCodeBullet_of_indent h)
      bullet := fun _ => Or.inr ⟨hcode, htake⟩
      other := fun _ _ h => absurd hbullet h }
  rw [if_neg hcode]
  have hself : l.head? ≠ some '|' → shieldPipes l = l := shieldPipes_of_head_ne
  exact {
    row := shieldPipes_eq
    indented := fun h => Or.inl (hself (by rw [head?_of_indent h]; decide))
    bullet := fun h => Or.inl (hself (by rw [head?_of_beginsCodeBullet h]; decide))
    other := fun h _ _ => hself h }

theorem return_not_mem_shield (t : Text) : '\r' ∉ shield t := by
  intro hmem
  rcases mem_joinWith hmem with hmem | ⟨l, hl, hmem⟩
  · exact absurd hmem (by decide)
  · exact (isLine_shieldLines (fun _ hl => isLine_of_mem_lines hl) l hl).1 hmem

/-- **The shield keeps the lines of a text in place.**  The shielded text has no carriage returns
and as many lines as the text before.  In each place stands the line that stood there; if it begins
with a bar, with those bars shielded that have an odd number of backticks before them and one more
behind; if it begins with exactly three spaces or with four and a bullet, perhaps with the sentinel
behind them.  No line is of two of these kinds. -/
theorem shield_keeps_lines (t : Text) :
    '\r' ∉ shield t ∧ (lines (shield t)).length = (lines t).length ∧
    (∀ i line, (lines t)[i]? = some line →
      ∃ line', (lines (shield t))[i]? = some line' ∧ Reshaped (lines t) i line line') ∧
    ∀ line : Text, ¬ (line.head? = some '|' ∧ HasIndent 3 line) ∧
      ¬ (line.head? = some '|' ∧ BeginsCodeBullet line) ∧
      ¬ (HasIndent 3 line ∧ BeginsCodeBullet line) := by
  refine ⟨return_not_mem_shield t, ?_, fun i line hline => ?_, fun line => ⟨?_, ?_, ?_⟩⟩
  · rw [lines_shield]
    exact (forall₂_reworking_shieldLines _).length_eq.symm
  · rw [lines_shield]
    exact reshaped_shieldLines hline
  · rintro ⟨hrow, hindent⟩
    rw [head?_of_indent hindent] at hrow
    cases hrow
  · rintro ⟨hrow, hbullet⟩
    rw [head?_of_beginsCodeBullet hbullet] at hrow
    cases hrow
  · rintro ⟨hindent, hbullet⟩
    exact not_beginsCodeBullet_of_indent hindent hbullet

end Concordance.Shield
