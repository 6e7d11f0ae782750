import Concordance.Proofs.Shield.Idempotence

/-!
# What the shield does to one line

The shield rewrites a line in three ways, and two of them put a sentinel behind spaces.  Whatever
it does to the lines around it, a line that begins with another character than a bar or a space
comes back as it was, and a line that begins with a bar still does.

* `Rewriting` is what may become of a line.
* `Reworking` says exactly what becomes of it, and `forall₂_reworking_shieldLines` that nothing
  else becomes of any line of a document: the three passes never meet on one line.
* `not_mem_shieldLines`: no character comes in that is not part of a sentinel.
-/

namespace Concordance.Shield

open Text

/-- What the shield may make of a line: nothing new, a row of a row, or a sentinel behind as many
spaces as before. -/
inductive Rewriting : Text → Text → Prop where
  | same (line : Text) : Rewriting line line
  | row (line line' : Text) : Rewriting ('|' :: line) ('|' :: line')
  | marked {c : Char} (h : c ≠ ' ') (line : Text) :
      Rewriting (spaces 3 ++ c :: line) (marked (spaces 3 ++ c :: line))
  | shielded {c : Char} (h : c = '*' ∨ c = '+' ∨ c = '-') (line : Text) :
      Rewriting (spaces 4 ++ c :: line) (shielded (spaces 4 ++ c :: line))

namespace Rewriting

/-- Only lines that begin with a bar or a space are rewritten. -/
theorem eq_of_head {l l' : Text} (h : Rewriting l l') (hbar : l.head? ≠ some '|')
    (hspace : l.head? ≠ some ' ') : l' = l := by
  cases h with
  | same => rfl
  | row => exact absurd rfl hbar
  | marked => exact absurd rfl hspace
  | shielded => exact absurd rfl hspace

/-- The first character stays. -/
theorem head_eq {l l' : Text} (h : Rewriting l l') : l'.head? = l.head? := by
  cases h <;> rfl

end Rewriting

/-! ## Rows -/

theorem rewriting_shieldPipes (line : Text) : Rewriting line (shieldPipes line) := by
  by_cases h : line.head? = some '|'
  · obtain ⟨t, rfl⟩ : ∃ t, line = '|' :: t := by
      cases line with
      | nil => simp at h
      | cons c t => exact ⟨t, by rw [List.head?_cons, Option.some_inj] at h; rw [h]⟩
    obtain ⟨p, ps, hp⟩ := List.exists_cons_of_ne_nil (splitOn_ne_nil '\x60' t)
    have hsplit : splitOn '\x60' ('|' :: t) = ('|' :: p) :: ps := by
      rw [splitOn, if_neg (by decide), hp, consFirst]
    rw [shieldPipes, if_pos h, hsplit]
    cases ps with
    | nil => exact .row t p
    | cons q ps =>
      rw [shieldPieces, if_neg (by decide)]
      cases shieldPieces (!false) (q :: ps) with
      | nil => exact .row t p
      | cons r rs => exact .row t (p ++ ['\x60'] ++ joinWith ['\x60'] (r :: rs))
  · rw [shieldPipes_of_head_ne h]
    exact .same line

/-! ## All passes -/

theorem forall₂_comp {R S T : Text → Text → Prop} (hT : ∀ l m n, R l m → S m n → T l n)
    {ls ms ns : List Text} (h : List.Forall₂ R ls ms) (h' : List.Forall₂ S ms ns) :
    List.Forall₂ T ls ns := by
  induction h generalizing ns with
  | nil =>
    cases h'
    exact .nil
  | cons h _ ih =>
    cases h' with
    | cons h' ht => exact .cons (hT _ _ _ h h') (ih ht)

/-- What the shield makes of a line, exactly: its bars are shielded, it is marked, or its bullet is
shielded.  Only the first leaves a line that begins with a bar. -/
inductive Reworking : Text → Text → Prop where
  | row (line : Text) : Reworking line (shieldPipes line)
  | marked {c : Char} (h : c ≠ ' ') (t : Text) :
      Reworking (spaces 3 ++ c :: t) (marked (spaces 3 ++ c :: t))
  | shielded {line : Text} (h : isCodeBullet line = true) : Reworking line (shielded line)

theorem Reworking.rewriting {l l' : Text} (h : Reworking l l') : Rewriting l l' := by
  cases h with
  | row => exact rewriting_shieldPipes l
  | marked h t => exact .marked h t
  | shielded h =>
    obtain ⟨c, t, hc, rfl⟩ := isCodeBullet_eq_true h
    exact .shielded hc t

/-- A line that begins with a space is no row. -/
theorem shieldPipes_eq_self {line : Text} (h : (shieldPipes line).head? = some ' ') :
    shieldPipes line = line := by
  rw [(rewriting_shieldPipes line).head_eq] at h
  exact shieldPipes_of_head_ne (by simp [h])

/-- Each line of a document is reworked in one of these ways, and in one only. -/
theorem forall₂_reworking_shieldLines (ls : List Text) :
    List.Forall₂ Reworking ls (shieldLines ls) := by
  have hmarks := List.forall₂_map_left_iff.1 (forall₂_markFrom .none (ls.map shieldPipes))
  refine forall₂_comp (fun l m n hm hn => ?_) hmarks (forall₂_shieldBullets _)
  rcases hm with rfl | ⟨c, t, hc, hl, rfl⟩
  · rcases hn with rfl | ⟨hb, rfl⟩
    · exact .row l
    · obtain ⟨c, t, -, hc⟩ := isCodeBullet_eq_true hb
      rw [shieldPipes_eq_self (by rw [hc]; rfl)] at hb ⊢
      exact .shielded hb
  · have hself : shieldPipes l = l := shieldPipes_eq_self (by rw [hl]; rfl)
    rcases hn with rfl | ⟨hb, -⟩
    · obtain rfl : l = spaces 3 ++ c :: t := hself.symm.trans hl
      rw [hself]
      exact .marked hc t
    · rw [isCodeBullet_marked] at hb
      exact absurd hb (by decide)

/-- No character comes in that is not part of a sentinel. -/
theorem not_mem_shieldLines {c : Char} (hpipe : c ∉ pipeSentinel)
    (hindent : c ∉ spaces 3 ++ indentSentinel) (hbullet : c ∉ spaces 4 ++ bulletSentinel)
    (htick : c ≠ '\x60') {ls : List Text} (h : ∀ l ∈ ls, c ∉ l) : ∀ l ∈ shieldLines ls, c ∉ l := by
  have hpipes : ∀ l ∈ ls, c ∉ shieldPipes l := by
    intro l hl hc
    rw [shieldPipes] at hc
    split at hc
    · rcases mem_joinWith hc with hc | ⟨p, hp, hc⟩
      · exact htick (List.mem_singleton.1 hc)
      · rcases mem_shieldPieces hp hc with hc | ⟨q, hq, hc⟩
        · exact hpipe hc
        · exact h l hl (mem_of_mem_splitOn hq hc)
    · exact h l hl hc
  have hmarked : ∀ m : Text, c ∉ m → c ∉ marked m := fun m hm hc => by
    rcases List.mem_append.1 hc with hc | hc
    · exact hindent hc
    · exact hm (List.mem_of_mem_drop hc)
  have hshielded : ∀ m : Text, c ∉ m → c ∉ shielded m := fun m hm hc => by
    rcases List.mem_append.1 hc with hc | hc
    · exact hbullet hc
    · exact hm (List.mem_of_mem_drop hc)
  intro line hline
  obtain ⟨l, hl, rfl | rfl | ⟨m, rfl, rfl | rfl⟩⟩ := mem_shieldLines hline
  · exact hpipes l hl
  · exact hmarked _ (hpipes l hl)
  · exact hshielded _ (hpipes l hl)
  · exact hshielded _ (hmarked _ (hpipes l hl))

end Concordance.Shield
