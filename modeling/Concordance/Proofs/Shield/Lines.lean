import Concordance.Proofs.Text.Pieces
import Concordance.Shield

/-!
# The kinds of line a shield tells apart

Each of the three steps of the shield looks at how a line begins, and a line that has been
rewritten is not taken for anything else:

* a row begins with a bar, and what the other steps rewrite begins with a space;
* a bullet of nested code is `Inert` for the search of continuation paragraphs, and stays so when
  it is shielded;
* a marked continuation paragraph opens nothing and is not marked again.
-/

namespace Concordance.Shield

open Text

/-! ## Lines that are rewritten -/

/-- A continuation paragraph with its mark. -/
def marked (line : Text) : Text := spaces 3 ++ indentSentinel ++ line.drop 3

/-- A line of nested code with its bullet shielded. -/
def shielded (line : Text) : Text := spaces 4 ++ bulletSentinel ++ line.drop 4

theorem marked_eq_cons (line : Text) :
    marked line = ' ' :: ' ' :: ' ' :: 'c' :: (indentSentinel.tail ++ line.drop 3) := rfl

theorem shielded_eq_cons (line : Text) :
    shielded line = ' ' :: ' ' :: ' ' :: ' ' :: 'c' :: (bulletSentinel.tail ++ line.drop 4) := rfl

theorem isLine_sentinels : IsLine pipeSentinel ∧ IsLine indentSentinel ∧ IsLine bulletSentinel :=
  ⟨⟨by decide, by decide⟩, ⟨by decide, by decide⟩, ⟨by decide, by decide⟩⟩

theorem isLine_spaces (n : Nat) : IsLine (spaces n) :=
  ⟨fun h => by simp [spaces] at h, fun h => by simp [spaces] at h⟩

theorem isLine_marked {line : Text} (h : IsLine line) : IsLine (marked line) :=
  isLine_append.2 ⟨isLine_append.2 ⟨isLine_spaces 3, isLine_sentinels.2.1⟩, isLine_drop 3 h⟩

theorem isLine_shielded {line : Text} (h : IsLine line) : IsLine (shielded line) :=
  isLine_append.2 ⟨isLine_append.2 ⟨isLine_spaces 4, isLine_sentinels.2.2⟩, isLine_drop 4 h⟩

/-! ## Marked lines -/

/-- A marked line opens nothing and is not marked again. -/
theorem opens_marked (level : Level) (line : Text) : level.opens (marked line) = Option.none := by
  have h1 : isBullet (marked line) = false := rfl
  have h2 : isNestedBullet (marked line) = false := rfl
  have h3 : isIndentedText 6 (marked line) = false := rfl
  simp [Level.opens, h1, h2, h3]

theorem continuesFirst_marked (level : Level) (line : Text) :
    level.continuesFirst (marked line) = false := by
  have h : startsWith (spaces 3 ++ indentSentinel) (marked line) = true :=
    startsWith_iff.2 (List.prefix_append _ _)
  rw [Level.continuesFirst, h, Bool.not_true, Bool.and_false]

/-- Only a line with exactly three spaces before its text is marked. -/
theorem exists_append_of_continuesFirst {level : Level} {line : Text}
    (h : level.continuesFirst line = true) : ∃ c t, line = spaces 3 ++ c :: t ∧ c ≠ ' ' := by
  simp only [Level.continuesFirst, isIndentedText, Bool.and_eq_true, startsWith_iff] at h
  obtain ⟨⟨-, ⟨t, rfl⟩, hdrop⟩, -⟩ := h
  rw [List.drop_left' (show (spaces 3).length = 3 from rfl)] at hdrop
  cases t with
  | nil => exact Bool.noConfusion hdrop
  | cons c t => exact ⟨c, t, rfl, bne_iff_ne.1 hdrop⟩

theorem isCodeBullet_marked (line : Text) : isCodeBullet (marked line) = false := rfl

theorem isBlankText_marked (line : Text) : isBlankText (marked line) = false := by
  have h : isBlank 'c' = false := by decide
  simp [isBlankText, marked_eq_cons, h]

/-! ## Bullets of nested code -/

/-- A line that means nothing to the search of continuation paragraphs: no bullet, no text of one,
and not blank. -/
structure Inert (line : Text) : Prop where
  not_bullet : isBullet line = false
  not_nestedBullet : isNestedBullet line = false
  not_indented_six : isIndentedText 6 line = false
  not_indented_three : isIndentedText 3 line = false
  not_blank : isBlankText line = false

namespace Inert

theorem opens {line : Text} (h : Inert line) (level : Level) : level.opens line = Option.none := by
  simp [Level.opens, h.not_bullet, h.not_nestedBullet, h.not_indented_six]

theorem continuesFirst {line : Text} (h : Inert line) (level : Level) :
    level.continuesFirst line = false := by
  simp [Level.continuesFirst, h.not_indented_three]

/-- Four spaces and a character that is no blank make a line inert. -/
theorem of_four_spaces {c : Char} (line : Text) (hc : isBlank c = false) :
    Inert (' ' :: ' ' :: ' ' :: ' ' :: c :: line) := by
  have hne : ' ' ≠ c := by
    rintro rfl
    exact absurd hc (by decide)
  refine ⟨rfl, rfl, ?_, rfl, ?_⟩
  · simp [isIndentedText, startsWith, spaces, List.replicate, hne]
  · simp [isBlankText, hc]

end Inert

theorem isCodeBullet_eq_true {line : Text} (h : isCodeBullet line = true) :
    ∃ c rest, (c = '*' ∨ c = '+' ∨ c = '-') ∧ line = ' ' :: ' ' :: ' ' :: ' ' :: c :: rest := by
  simp only [isCodeBullet, Bool.or_eq_true, startsWith_iff] at h
  rcases h with (⟨r, rfl⟩ | ⟨r, rfl⟩) | ⟨r, rfl⟩
  · exact ⟨'*', r, by simp, rfl⟩
  · exact ⟨'+', r, by simp, rfl⟩
  · exact ⟨'-', r, by simp, rfl⟩

theorem inert_of_isCodeBullet {line : Text} (h : isCodeBullet line = true) : Inert line := by
  obtain ⟨c, rest, hc, rfl⟩ := isCodeBullet_eq_true h
  refine Inert.of_four_spaces rest ?_
  rcases hc with rfl | rfl | rfl <;> decide

theorem inert_shielded (line : Text) : Inert (shielded line) :=
  Inert.of_four_spaces _ (by decide)

theorem isNestedFence_shielded (line : Text) : isNestedFence (shielded line) = false := rfl

theorem isCodeBullet_shielded (line : Text) : isCodeBullet (shielded line) = false := rfl

/-! ## Rows -/

/-- Only a line that begins with a bar is a row. -/
theorem shieldPipes_of_head_ne {line : Text} (h : line.head? ≠ some '|') :
    shieldPipes line = line := by
  rw [shieldPipes, if_neg h]

theorem shieldPipes_marked (line : Text) : shieldPipes (marked line) = marked line :=
  shieldPipes_of_head_ne (by simp [marked_eq_cons])

theorem shieldPipes_shielded (line : Text) : shieldPipes (shielded line) = shielded line :=
  shieldPipes_of_head_ne (by simp [shielded_eq_cons])

end Concordance.Shield
