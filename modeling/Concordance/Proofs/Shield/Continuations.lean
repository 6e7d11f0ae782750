import Concordance.Proofs.Shield.Rewriting
import Mathlib.Data.List.Chain

/-!
# Which lines are marked as continuations

The search for continuation paragraphs carries a level from line to line.  What it finds can be
said without a level: a line is marked if it is indented as the text of a bullet of the first level
is, and if a trail of lines leads to it from such a bullet, over at least one bullet of the second
level.  A trail steps over single blank lines, as the search does.

* `Standing` is what the level says about the lines before; `Standing.next` is the step, and
  `marksOnly_markFrom` the run.
* `Visits` says that the search comes to a line.  It comes to every line that is not blank
  (`exists_visits`), and from there along every trail (`Visits.along`).
-/

namespace Concordance.Shield

open Text

/-! ## Trails -/

/-- The line at an index has a property. -/
def LineAt (lines : List Text) (i : Nat) (p : Text → Prop) : Prop :=
  ∃ line, lines[i]? = some line ∧ p line

/-- A line has exactly so many spaces before its text. -/
def HasIndent (n : Nat) (line : Text) : Prop := ∃ c t, c ≠ ' ' ∧ line = spaces n ++ c :: t

/-- A bullet of the first level. -/
def BeginsBullet (line : Text) : Prop := '*' :: spaces 2 <+: line

/-- A bullet of the second level. -/
def BeginsNestedBullet (line : Text) : Prop := spaces 3 ++ ['*', ' '] <+: line

/-- The second line is the next one behind the first, or, exactly if that one is blank, the one
behind it. -/
def GoesOn (lines : List Text) (i j : Nat) : Prop :=
  ¬ LineAt lines (i + 1) (isBlankText · = true) ∧ j = i + 1 ∨
    LineAt lines (i + 1) (isBlankText · = true) ∧ j = i + 2

/-- A trail leads to a line: from a bullet of the first level to one of the second, and over
further ones and their text. -/
def HasTrail (lines : List Text) (i : Nat) : Prop :=
  ∃ first second inner, LineAt lines first BeginsBullet ∧ LineAt lines second BeginsNestedBullet ∧
    (∀ j ∈ inner, LineAt lines j fun line => BeginsNestedBullet line ∨ HasIndent 6 line) ∧
    (first :: second :: (inner ++ [i])).IsChain (GoesOn lines)

/-- A line that continues the first level behind bullets of the second, and is neither such a
bullet nor marked.  The last line never does. -/
structure IsContinuation (lines : List Text) (i : Nat) : Prop where
  not_last : i + 1 < lines.length
  line : LineAt lines i fun line =>
    HasIndent 3 line ∧ ¬ BeginsNestedBullet line ∧ ¬ spaces 3 ++ indentSentinel <+: line
  trail : HasTrail lines i

variable {lines : List Text} {level level' : Level} {line : Text} {i j n : Nat}

/-! ## What the tests of the search say -/

theorem isIndentedText_iff : isIndentedText n line = true ↔ HasIndent n line := by
  rw [isIndentedText, Bool.and_eq_true, startsWith_iff]
  constructor
  · rintro ⟨⟨t, rfl⟩, hdrop⟩
    rw [List.drop_left' (show (spaces n).length = n from List.length_replicate)] at hdrop
    cases t with
    | nil => cases hdrop
    | cons c t => exact ⟨c, t, bne_iff_ne.1 hdrop, rfl⟩
  · rintro ⟨c, t, hc, rfl⟩
    rw [List.drop_left' (show (spaces n).length = n from List.length_replicate)]
    exact ⟨List.prefix_append _ _, bne_iff_ne.2 hc⟩

theorem isBullet_iff : isBullet line = true ↔ BeginsBullet line := by
  rw [isBullet, startsWith_iff, BeginsBullet]

theorem isNestedBullet_iff : isNestedBullet line = true ↔ BeginsNestedBullet line := by
  rw [isNestedBullet, startsWith_iff, BeginsNestedBullet]

/-- What begins with a space is no bullet of the first level. -/
theorem isBullet_of_head (h : line.head? = some ' ') : isBullet line = false := by
  cases line with
  | nil => rfl
  | cons c t =>
    obtain rfl : c = ' ' := Option.some.inj h
    rfl

theorem head?_of_nestedBullet (h : BeginsNestedBullet line) : line.head? = some ' ' := by
  obtain ⟨t, rfl⟩ := h
  rfl

theorem head?_of_indent (h : HasIndent (n + 1) line) : line.head? = some ' ' := by
  obtain ⟨c, t, -, rfl⟩ := h
  rfl

theorem not_indent_of_indent (h : HasIndent 3 line) : ¬ HasIndent 6 line := by
  obtain ⟨c, t, hc, rfl⟩ := h
  rintro ⟨d, u, -, heq⟩
  have hrest : c :: t = spaces 3 ++ d :: u := List.append_cancel_left heq
  exact hc (List.cons.inj hrest).1

/-- A bullet of the first level opens its level whatever stands before it. -/
theorem opens_of_bullet (level : Level) (h : BeginsBullet line) :
    level.opens line = some .bullet := by
  rw [Level.opens, if_pos (isBullet_iff.2 h)]

theorem opens_of_nestedBullet (hlevel : level ≠ .none) (h : BeginsNestedBullet line) :
    level.opens line = some .nestedBullet := by
  rw [Level.opens, isBullet_of_head (head?_of_nestedBullet h), if_neg Bool.false_ne_true,
    if_pos ⟨hlevel, isNestedBullet_iff.2 h⟩]

theorem opens_of_nested (h : BeginsNestedBullet line ∨ HasIndent 6 line) :
    Level.nestedBullet.opens line = some .nestedBullet := by
  rcases h with h | h
  · exact opens_of_nestedBullet nofun h
  · rw [Level.opens, isBullet_of_head (head?_of_indent h), if_neg Bool.false_ne_true]
    split
    · rfl
    · rw [if_pos ⟨rfl, isIndentedText_iff.2 h⟩]

/-- What a line opens, told from the level and the line. -/
theorem of_opens (h : level.opens line = some level') :
    level' = .bullet ∧ BeginsBullet line ∨
      level' = .nestedBullet ∧ (level = .bullet ∧ BeginsNestedBullet line ∨
        level = .nestedBullet ∧ (BeginsNestedBullet line ∨ HasIndent 6 line)) := by
  rw [Level.opens] at h
  split at h
  · rename_i hbullet
    exact Or.inl ⟨(Option.some.inj h).symm, isBullet_iff.1 hbullet⟩
  split at h
  · rename_i hnested
    refine Or.inr ⟨(Option.some.inj h).symm, ?_⟩
    have hline := isNestedBullet_iff.1 hnested.2
    cases level with
    | none => exact absurd rfl hnested.1
    | bullet => exact Or.inl ⟨rfl, hline⟩
    | nestedBullet => exact Or.inr ⟨rfl, Or.inl hline⟩
  split at h
  · rename_i hindent
    exact Or.inr ⟨(Option.some.inj h).symm,
      Or.inr ⟨hindent.1, Or.inr (isIndentedText_iff.1 hindent.2)⟩⟩
  · cases h

/-- A line is marked behind a bullet of the second level or its text, if it is neither of these. -/
theorem continuesFirst_iff : level.opens line = none ∧ level.continuesFirst line = true ↔
    level = .nestedBullet ∧ HasIndent 3 line ∧ ¬ BeginsNestedBullet line ∧
      ¬ spaces 3 ++ indentSentinel <+: line := by
  rw [Level.continuesFirst, Bool.and_eq_true, Bool.and_eq_true, beq_iff_eq, isIndentedText_iff,
    Bool.not_eq_true', ← Bool.not_eq_true, startsWith_iff]
  constructor
  · rintro ⟨hopens, ⟨rfl, hindent⟩, hsentinel⟩
    refine ⟨rfl, hindent, fun hnested => ?_, hsentinel⟩
    rw [opens_of_nested (Or.inl hnested)] at hopens
    cases hopens
  · rintro ⟨rfl, hindent, hnested, hsentinel⟩
    refine ⟨?_, ⟨rfl, hindent⟩, hsentinel⟩
    rw [Level.opens, isBullet_of_head (head?_of_indent hindent), if_neg Bool.false_ne_true,
      if_neg fun h => hnested (isNestedBullet_iff.1 h.2),
      if_neg fun h => not_indent_of_indent hindent (isIndentedText_iff.1 h.2)]

/-! ## What a level says about the lines before -/

/-- What stands before a line that the search comes to with a level. -/
def Standing (lines : List Text) : Level → Nat → Prop
  | .none, _ => True
  | .bullet, i => ∃ first, LineAt lines first BeginsBullet ∧ GoesOn lines first i
  | .nestedBullet, i => HasTrail lines i

theorem HasTrail.next (h : HasTrail lines i)
    (hline : LineAt lines i fun line => BeginsNestedBullet line ∨ HasIndent 6 line)
    (hj : GoesOn lines i j) : HasTrail lines j := by
  obtain ⟨first, second, inner, hfirst, hsecond, hinner, hchain⟩ := h
  refine ⟨first, second, inner ++ [i], hfirst, hsecond, fun k hk => ?_, ?_⟩
  · rcases List.mem_append.1 hk with hk | hk
    · exact hinner k hk
    · exact List.mem_singleton.1 hk ▸ hline
  · have hlast : (first :: second :: (inner ++ [i])).getLast? = some i :=
      List.getLast?_concat (l := first :: second :: inner)
    refine List.isChain_append.2 ⟨hchain, .singleton j, ?_⟩
    rw [hlast]
    rintro _ ⟨⟩ _ ⟨⟩
    exact hj

/-- The step of the search. -/
theorem Standing.next (h : Standing lines level i) (hline : lines[i]? = some line)
    (hopens : level.opens line = some level') (hj : GoesOn lines i j) :
    Standing lines level' j := by
  rcases of_opens hopens with ⟨rfl, hbullet⟩ | ⟨rfl, ⟨rfl, hnested⟩ | ⟨rfl, hnested⟩⟩
  · exact ⟨i, ⟨line, hline, hbullet⟩, hj⟩
  · obtain ⟨first, hfirst, hi⟩ := h
    refine ⟨first, i, [], hfirst, ⟨line, hline, hnested⟩,
      fun k hk => absurd hk List.not_mem_nil, ?_⟩
    exact .cons_cons hi (.cons_cons hj (.singleton j))
  · exact HasTrail.next h ⟨line, hline, hnested⟩ hj

/-- The line behind one with a line behind it. -/
theorem goesOn_of_next {next : Text} (hnext : lines[i + 1]? = some next) :
    GoesOn lines i (if isBlankText next then i + 2 else i + 1) := by
  split
  · rename_i hblank
    exact Or.inr ⟨⟨next, hnext, hblank⟩, rfl⟩
  · rename_i hblank
    refine Or.inl ⟨?_, rfl⟩
    rintro ⟨line, hline, hline'⟩
    obtain rfl : line = next := Option.some.inj (hline.symm.trans hnext)
    exact hblank hline'

/-- What the search makes of the lines from the number `n` on: a line comes back as it was, or it
is a continuation and comes back marked. -/
def MarksOnly (lines : List Text) (n : Nat) (rest rest' : List Text) : Prop :=
  ∀ k l, rest[k]? = some l → rest'[k]? = some l ∨ IsContinuation lines (n + k) ∧
    rest'[k]? = some (marked l)

theorem MarksOnly.cons {line' : Text} {rest rest' : List Text}
    (hline : line' = line ∨ IsContinuation lines n ∧ line' = marked line)
    (hrest : MarksOnly lines (n + 1) rest rest') :
    MarksOnly lines n (line :: rest) (line' :: rest') := by
  intro k l hl
  cases k with
  | zero =>
    obtain rfl : line = l := Option.some.inj hl
    rcases hline with rfl | ⟨hcontinues, rfl⟩
    · exact Or.inl rfl
    · exact Or.inr ⟨hcontinues, rfl⟩
  | succ k =>
    have hrun := hrest k l hl
    rw [Nat.add_right_comm] at hrun
    exact hrun

theorem drop_succ_of_drop {rest : List Text} (h : lines.drop n = line :: rest) :
    lines.drop (n + 1) = rest := by
  rw [← List.drop_drop, h, List.drop_one, List.tail_cons]

/-- The run of the search, behind a line that it comes to. -/
theorem marksOnly_markFrom (level : Level) (rest : List Text) (hrest : lines.drop n = rest)
    (h : Standing lines level n) : MarksOnly lines n rest (markFrom level rest) := by
  have hat : ∀ k, lines[n + k]? = rest[k]? := fun k => by rw [← hrest, List.getElem?_drop]
  fun_induction markFrom level rest generalizing n with
  | case1 => exact fun k l hl => Or.inl hl
  | case2 => exact fun k l hl => Or.inl hl
  | case3 level line next rest level' hopens hblank ih =>
    have hgoes := goesOn_of_next (hat 1)
    rw [if_pos hblank] at hgoes
    have hdrop : lines.drop (n + 2) = rest := drop_succ_of_drop (drop_succ_of_drop hrest)
    have hrun := ih hdrop (h.next (hat 0) hopens hgoes) fun k => by
      rw [← hdrop, List.getElem?_drop]
    exact .cons (Or.inl rfl) (.cons (Or.inl rfl) hrun)
  | case4 level line next rest level' hopens hblank ih =>
    have hgoes := goesOn_of_next (hat 1)
    rw [if_neg hblank] at hgoes
    have hdrop := drop_succ_of_drop hrest
    have hrun := ih hdrop (h.next (hat 0) hopens hgoes) fun k => by
      rw [← hdrop, List.getElem?_drop]
    exact .cons (Or.inl rfl) hrun
  | case5 level line next rest hopens ih =>
    have hdrop := drop_succ_of_drop hrest
    have hrun := ih hdrop (show Standing lines .none (n + 1) from trivial)
      fun k => by rw [← hdrop, List.getElem?_drop]
    refine .cons ?_ hrun
    split
    · rename_i hcontinues
      obtain ⟨rfl, hline⟩ := continuesFirst_iff.1 ⟨hopens, hcontinues⟩
      have hlength : n + 1 < lines.length := (List.getElem?_eq_some_iff.1 (hat 1)).1
      exact Or.inr ⟨⟨hlength, ⟨line, hat 0, hline⟩, h⟩, rfl⟩
    · exact Or.inl rfl

/-! ## Where the search comes -/

/-- The search for continuations comes to a line with a level. -/
def Visits (lines : List Text) (level : Level) (i : Nat) : Prop :=
  ∃ front, front.length = i ∧ markContinuations lines = front ++ markFrom level (lines.drop i)

/-- Behind a line that it comes to, the search comes to every line that is not blank. -/
theorem exists_front (level : Level) (rest : List Text) {k : Nat} {l : Text}
    (hl : rest[k]? = some l) (hblank : isBlankText l = false) :
    ∃ level' front, front.length = k ∧
      markFrom level rest = front ++ markFrom level' (rest.drop k) := by
  cases k with
  | zero => exact ⟨level, [], rfl, rfl⟩
  | succ k =>
    fun_induction markFrom level rest generalizing k with
    | case1 => cases hl
    | case2 => cases hl
    | case3 level line next rest level' hopens hnext ih =>
      cases k with
      | zero =>
        obtain rfl : next = l := Option.some.inj hl
        rw [hblank] at hnext
        cases hnext
      | succ k =>
        cases k with
        | zero => exact ⟨level', [line, next], rfl, rfl⟩
        | succ k =>
          obtain ⟨level'', front, hlength, hfront⟩ := ih (k := k) hl
          exact ⟨level'', line :: next :: front, by simp [hlength], by rw [hfront]; rfl⟩
    | case4 level line next rest level' hopens hnext ih =>
      cases k with
      | zero => exact ⟨level', [line], rfl, rfl⟩
      | succ k =>
        obtain ⟨level'', front, hlength, hfront⟩ := ih (k := k) hl
        exact ⟨level'', line :: front, by simp [hlength], by rw [hfront]; rfl⟩
    | case5 level line next rest hopens ih =>
      cases k with
      | zero => exact ⟨.none, [_], rfl, rfl⟩
      | succ k =>
        obtain ⟨level'', front, hlength, hfront⟩ := ih (k := k) hl
        exact ⟨level'', _ :: front, by simp [hlength], by rw [hfront]; rfl⟩

theorem exists_visits (hline : lines[i]? = some line) (hblank : isBlankText line = false) :
    ∃ level, Visits lines level i := by
  obtain ⟨level, front, hlength, hfront⟩ := exists_front .none lines hline hblank
  exact ⟨level, front, hlength, hfront⟩

theorem drop_eq_cons_cons {next : Text} (hline : lines[i]? = some line)
    (hnext : lines[i + 1]? = some next) :
    lines.drop i = line :: next :: lines.drop (i + 2) := by
  obtain ⟨hi, rfl⟩ := List.getElem?_eq_some_iff.1 hline
  obtain ⟨hi', rfl⟩ := List.getElem?_eq_some_iff.1 hnext
  rw [List.drop_eq_getElem_cons hi, List.drop_eq_getElem_cons hi']

/-- From a line that opens something the search goes on to the line that is next. -/
theorem Visits.next (h : Visits lines level i) (hline : lines[i]? = some line)
    (hopens : level.opens line = some level') (hj : GoesOn lines i j)
    (hlength : j < lines.length) : Visits lines level' j := by
  obtain ⟨front, rfl, hfront⟩ := h
  have hlt : front.length + 1 < lines.length := by
    rcases hj with ⟨-, rfl⟩ | ⟨-, rfl⟩ <;> omega
  have hnext := List.getElem?_eq_getElem hlt
  rw [drop_eq_cons_cons hline hnext, markFrom_cons_cons, hopens] at hfront
  rcases hj with ⟨hblank, rfl⟩ | ⟨⟨next, hnext', hblank⟩, rfl⟩
  · refine ⟨front ++ [line], by simp, ?_⟩
    have hnotBlank : ¬ isBlankText lines[front.length + 1] = true :=
      fun hb => hblank ⟨_, hnext, hb⟩
    simp only [if_neg hnotBlank] at hfront
    rw [hfront, List.append_assoc, List.singleton_append, List.drop_eq_getElem_cons hlt]
  · obtain rfl : lines[front.length + 1] = next := Option.some.inj (hnext.symm.trans hnext')
    refine ⟨front ++ [line, lines[front.length + 1]], by simp, ?_⟩
    simp only [if_pos hblank] at hfront
    rw [hfront, List.append_assoc]
    rfl

/-- From a bullet of the second level or its text the search goes along every trail. -/
theorem Visits.along (h : Visits lines level j) {inner : List Nat} (hline : lines[j]? = some line)
    (hopens : level.opens line = some .nestedBullet)
    (hinner : ∀ k ∈ inner, LineAt lines k fun line => BeginsNestedBullet line ∨ HasIndent 6 line)
    (hchain : (j :: (inner ++ [i])).IsChain (GoesOn lines)) (hi : i < lines.length) :
    Visits lines .nestedBullet i := by
  induction inner generalizing j level line with
  | nil => exact h.next hline hopens (List.isChain_cons_cons.1 hchain).1 hi
  | cons k inner ih =>
    obtain ⟨hk, hrest⟩ := List.isChain_cons_cons.1 hchain
    obtain ⟨⟨line', hline', hnested⟩, hinner⟩ := List.forall_mem_cons.1 hinner
    have hlength : k < lines.length := (List.getElem?_eq_some_iff.1 hline').1
    exact ih (h.next hline hopens hk hlength) hline' (opens_of_nested hnested) hinner hrest

/-- The search comes to the end of a trail behind a bullet of the second level or its text. -/
theorem visits_of_hasTrail (h : HasTrail lines i) (hi : i < lines.length) :
    Visits lines .nestedBullet i := by
  obtain ⟨first, second, inner, ⟨line, hfirst, hbullet⟩, ⟨line', hsecond, hnested⟩,
      hinner, hchain⟩ := h
  obtain ⟨hnext, hchain⟩ := List.isChain_cons_cons.1 hchain
  have hblank : isBlankText line = false := by
    obtain ⟨t, rfl⟩ := hbullet
    rfl
  obtain ⟨level, hvisits⟩ := exists_visits hfirst hblank
  have hlength : second < lines.length := (List.getElem?_eq_some_iff.1 hsecond).1
  have hvisits := hvisits.next hfirst (opens_of_bullet level hbullet) hnext hlength
  exact hvisits.along hsecond (opens_of_nestedBullet nofun hnested) hinner hchain hi

/-- A continuation is marked. -/
theorem getElem?_markContinuations (h : IsContinuation lines i) (hline : lines[i]? = some line) :
    (markContinuations lines)[i]? = some (marked line) := by
  obtain ⟨front, rfl, hfront⟩ := visits_of_hasTrail h.trail (Nat.lt_of_succ_lt h.not_last)
  obtain ⟨line', hline', hcontinues⟩ := h.line
  obtain rfl : line' = line := Option.some.inj (hline'.symm.trans hline)
  obtain ⟨hopens, hfirst⟩ := continuesFirst_iff.2 ⟨rfl, hcontinues⟩
  rw [hfront, drop_eq_cons_cons hline (List.getElem?_eq_getElem h.not_last), markFrom_cons_cons,
    hopens, List.getElem?_append_right (Nat.le_refl _), Nat.sub_self]
  simp only [if_pos hfirst]
  rfl

/-- Any other line comes back as it was. -/
theorem getElem?_markContinuations_of_not (h : ¬ IsContinuation lines i)
    (hline : lines[i]? = some line) :
    (markContinuations lines)[i]? = some line := by
  have hrun := marksOnly_markFrom .none lines List.drop_zero trivial i line hline
  rw [Nat.zero_add] at hrun
  rcases hrun with hsame | ⟨hcontinues, -⟩
  · exact hsame
  · exact absurd hcontinues h

/-- A sentinel behind some spaces changes a line. -/
theorem spaces_append_drop_ne {sentinel : Text} (hsentinel : sentinel ≠ [])
    (n : Nat) (line : Text) :
    spaces n ++ sentinel ++ line.drop n ≠ line := by
  intro h
  have hlength := congrArg List.length h
  have hpos := List.length_pos_iff.2 hsentinel
  simp only [List.length_append, List.length_drop, spaces, List.length_replicate] at hlength
  omega

/-- **Exactly the continuations are marked.**  The search for them keeps the number of lines.  It
changes a line if and only if the line is a continuation, and puts the sentinel behind its third
space, once. -/
theorem markContinuations_exact (lines : List Text) :
    (markContinuations lines).length = lines.length ∧
    ∀ i line, lines[i]? = some line →
      ((markContinuations lines)[i]? ≠ some line ↔ IsContinuation lines i) ∧
      (IsContinuation lines i →
        (markContinuations lines)[i]? = some (line.take 3 ++ indentSentinel ++ line.drop 3)) := by
  refine ⟨(forall₂_markFrom .none lines).length_eq.symm, fun i line hline =>
    ⟨⟨fun hne => ?_, fun h => ?_⟩, fun h => ?_⟩⟩
  · by_contra hnot
    exact hne (getElem?_markContinuations_of_not hnot hline)
  · rw [getElem?_markContinuations h hline]
    exact fun heq => spaces_append_drop_ne (by decide : indentSentinel ≠ []) 3 line
      (Option.some.inj heq)
  · obtain ⟨line', hline', ⟨c, t, -, rfl⟩, -⟩ := h.line
    obtain rfl := Option.some.inj (hline'.symm.trans hline)
    exact getElem?_markContinuations h hline

end Concordance.Shield
