import Concordance.Proofs.Markdown.MarkupBlocks
import Concordance.Proofs.Shield.Restoring
import Mathlib.Data.List.Infix

/-!
# Raw markup under the shield

The marks that end raw markup have nothing in common with the sentinels, so the shield neither
makes nor breaks one.

* `isApart` says of two texts that no end of one meets the front of the other.
* `infix_append_iff` and `Barred.infix_iff`: such a text stands in front of no mark, and within
  none.
* `isEnd_of_reworking`: a line ends raw markup exactly if it did before.
-/

namespace Concordance.Shield

open Text Markdown

/-! ## Marks and sentinels -/

/-- Whether no end of a text begins another one, and no such end goes on with all of it. -/
def isApart (s w : Text) : Bool :=
  s.tails.all fun v => v.isEmpty || (!w.isPrefixOf v && !v.isPrefixOf w)

theorem of_isApart {s w v : Text} (h : isApart s w = true) (hv : v <:+ s) (hne : v ≠ []) :
    ¬ w <+: v ∧ ¬ v <+: w := by
  have hend := List.all_eq_true.1 h v ((List.mem_tails v s).2 hv)
  simp only [Bool.or_eq_true, List.isEmpty_iff, hne, false_or, Bool.and_eq_true, Bool.not_eq_true',
    ← Bool.not_eq_true, List.isPrefixOf_iff_prefix] at hend
  exact hend

/-- A text apart from a mark has nothing to do with where the mark is found behind it. -/
theorem infix_append_iff {s w : Text} (h : isApart s w = true) (t : Text) :
    w <:+: s ++ t ↔ w <:+: t := by
  have hall : ∀ v, v <:+ s → (w <:+: v ++ t ↔ w <:+: t) := by
    intro v hv
    induction v with
    | nil => rfl
    | cons c v ih =>
      obtain ⟨hinside, hover⟩ := of_isApart h hv (List.cons_ne_nil c v)
      have hfront : ¬ w <+: (c :: v) ++ t := fun hw =>
        (List.prefix_or_prefix_of_prefix hw (List.prefix_append _ t)).elim hinside hover
      rw [List.cons_append, List.infix_cons_iff, ← List.cons_append,
        ih ((List.suffix_cons c v).trans hv)]
      exact or_iff_right hfront
  exact hall s (List.suffix_refl s)

/-- Shielded bars do not change what a text without bars begins with. -/
theorem Barred.prefix_iff {t u : Text} (h : Barred t u) {w : Text}
    (hw : isApart w pipeSentinel = true) (hbar : '|' ∉ w) :
    ∀ v, v <:+ w → (v <+: u ↔ v <+: t) := by
  induction h with
  | nil => exact fun v _ => Iff.rfl
  | char c _ ih =>
    intro v hv
    cases v with
    | nil => exact iff_of_true List.nil_prefix List.nil_prefix
    | cons d v =>
      rw [List.cons_prefix_cons, List.cons_prefix_cons, ih v ((List.suffix_cons d v).trans hv)]
  | bar _ _ =>
    intro v hv
    cases v with
    | nil => exact iff_of_true List.nil_prefix List.nil_prefix
    | cons d v =>
      obtain ⟨hinside, hover⟩ := of_isApart hw hv (List.cons_ne_nil d v)
      refine iff_of_false (fun hfront => ?_) fun hfront => ?_
      · exact (List.prefix_or_prefix_of_prefix hfront (List.prefix_append _ _)).elim hover hinside
      · have hd : d = '|' := (List.cons_prefix_cons.1 hfront).1
        exact hbar (hd ▸ hv.subset List.mem_cons_self)

/-- Shielded bars do not change where a mark is found. -/
theorem Barred.infix_iff {t u : Text} (h : Barred t u) {w : Text}
    (hw : isApart w pipeSentinel = true)
    (hsentinel : isApart pipeSentinel w = true) (hbar : '|' ∉ w) (hne : w ≠ []) :
    w <:+: u ↔ w <:+: t := by
  induction h with
  | nil => rfl
  | char c h ih =>
    rw [List.infix_cons_iff, List.infix_cons_iff, ih,
      (Barred.char c h).prefix_iff hw hbar w (List.suffix_refl w)]
  | @bar t u _ ih =>
    rw [infix_append_iff hsentinel, ih, List.infix_cons_iff]
    refine (or_iff_right fun hfront => ?_).symm
    obtain ⟨c, v, rfl⟩ := List.exists_cons_of_ne_nil hne
    have hc : c = '|' := (List.cons_prefix_cons.1 hfront).1
    exact hbar (hc ▸ List.mem_cons_self)

/-- Letters without their case are not told apart from bars and sentinels in another way. -/
theorem Barred.map_foldLetter {t u : Text} (h : Barred t u) :
    Barred (t.map foldLetter) (u.map foldLetter) := by
  induction h with
  | nil => exact .nil
  | char c _ ih => exact .char _ ih
  | @bar t u _ ih =>
    rw [List.map_append, List.map_cons, show foldLetter '|' = '|' by decide,
      show pipeSentinel.map foldLetter = pipeSentinel by decide +kernel]
    exact .bar ih

/-! ## The ends of raw markup -/

/-- What is behind a text in another one is found exactly if it stands there. -/
theorem isSome_behind?_iff (w t : Text) : (behind? w t).isSome = true ↔ w <:+: t := by
  induction t with
  | nil =>
    rw [behind?, List.infix_nil]
    split
    · rename_i hw
      exact iff_of_true rfl hw
    · rename_i hw
      exact iff_of_false Bool.noConfusion hw
  | cons c t ih =>
    rw [behind?, List.infix_cons_iff, ← List.isPrefixOf_iff_prefix]
    split
    · rename_i hw
      exact iff_of_true rfl (Or.inl hw)
    · rename_i hw
      rw [ih, or_iff_right hw]

/-- The closing tags of literal elements. -/
def literalEnds : List Text := literalTags.map fun name => "</".toList ++ name ++ ['>']

/-- The marks that end raw markup, but for closing tags. -/
def endMarks : List Text := ["-->".toList, "?>".toList, ['>'], "]]>".toList]

/-- What ends raw markup. -/
theorem of_markupEnd? {t : Text} {e : MarkupEnd} {interrupts : Bool}
    (h : markupEnd? t = some (e, interrupts)) :
    e = .emptyLine ∨ e = .literalTag ∨ ∃ w ∈ endMarks, e = .mark w := by
  unfold markupEnd? at h
  dsimp only at h
  repeat' split at h
  all_goals
    simp only [Option.some.injEq, Prod.mk.injEq, reduceCtorEq] at h
  all_goals
    obtain ⟨rfl, -⟩ := h
    simp [endMarks]

/-- What the marks and the sentinels have to do with each other: nothing. -/
structure IsMark (w : Text) : Prop where
  apart : ∀ s ∈ [pipeSentinel, indentSentinel, bulletSentinel], isApart s w = true
  apart_pipe : isApart w pipeSentinel = true
  bar : '|' ∉ w
  solid : ∃ c v, w = c :: v ∧ Line.isIndentation c = false

/-- Whether a text is a mark, as far as it can be computed. -/
def isMark (w : Text) : Bool :=
  [pipeSentinel, indentSentinel, bulletSentinel].all (isApart · w) && isApart w pipeSentinel &&
    !w.contains '|' && w.head?.any (!Line.isIndentation ·)

theorem isMark_sound {w : Text} (h : isMark w = true) : IsMark w := by
  simp only [isMark, Bool.and_eq_true, List.all_eq_true] at h
  obtain ⟨⟨⟨hall, hpipe⟩, hbar⟩, hhead⟩ := h
  obtain ⟨c, hc, hsolid⟩ := (Option.any_eq_true _ _).1 hhead
  obtain ⟨v, rfl⟩ := List.head?_eq_some_iff.1 hc
  refine ⟨hall, hpipe, fun hmem => ?_, c, v, rfl, (Bool.not_eq_true' _).mp hsolid⟩
  rw [List.contains_iff_mem.2 hmem] at hbar
  exact Bool.noConfusion hbar

theorem isMark_of_mem : ∀ w ∈ endMarks ++ literalEnds, isMark w = true := by decide +kernel

/-- Blanks in front do not change where a mark is found. -/
theorem IsMark.infix_dropWhile_iff {w : Text} (hw : IsMark w) (f : Char → Char)
    (hf : ∀ c, Line.isIndentation c = true → f c = c) (t : Text) :
    w <:+: (t.dropWhile Line.isIndentation).map f ↔ w <:+: t.map f := by
  obtain ⟨d, v, rfl, hd⟩ := hw.solid
  induction t with
  | nil => rfl
  | cons c t ih =>
    rw [List.dropWhile_cons]
    split
    · rename_i hc
      rw [ih, List.map_cons, hf c hc, List.infix_cons_iff]
      refine (or_iff_right fun hfront => ?_).symm
      rw [(List.cons_prefix_cons.1 hfront).1, hc] at hd
      exact Bool.noConfusion hd
    · rfl

theorem foldLetter_of_isIndentation {c : Char} (h : Line.isIndentation c = true) :
    foldLetter c = c := by
  rw [Line.isIndentation, Bool.or_eq_true, beq_iff_eq, beq_iff_eq] at h
  rcases h with rfl | rfl <;> decide

/-- The shield does not change where a mark is found, whether letters are told apart by their case
or not. -/
theorem IsMark.infix_reworking_iff {w : Text} (hw : IsMark w) {t t' : Text} (h : Reworking t t') :
    (w <:+: t' ↔ w <:+: t) ∧ (w <:+: t'.map foldLetter ↔ w <:+: t.map foldLetter) := by
  have hpipe : isApart pipeSentinel w = true := hw.apart _ List.mem_cons_self
  have hne : w ≠ [] := by
    obtain ⟨c, v, rfl, -⟩ := hw.solid
    exact List.cons_ne_nil c v
  have hblank (n : Nat) (u : Text) : w <:+: spaces n ++ u ↔ w <:+: u := by
    have hdrop := hw.infix_dropWhile_iff id (fun _ _ => rfl)
    have hskip : (spaces n ++ u).dropWhile Line.isIndentation = u.dropWhile Line.isIndentation :=
      List.dropWhile_append_of_pos fun c hc => by rw [(List.mem_replicate.1 hc).2]; rfl
    have hleft := hdrop (spaces n ++ u)
    rw [hskip, hdrop u, List.map_id, List.map_id] at hleft
    exact hleft.symm
  have hmap (n : Nat) : (spaces n).map foldLetter = spaces n := by
    rw [spaces, List.map_replicate]
    rfl
  have hfold {s : Text} (hs : s = indentSentinel ∨ s = bulletSentinel) : s.map foldLetter = s := by
    rcases hs with rfl | rfl <;> decide +kernel
  cases h with
  | row =>
    have hbarred := Barred.shieldPipes t
    exact ⟨hbarred.infix_iff hw.apart_pipe hpipe hw.bar hne,
      hbarred.map_foldLetter.infix_iff hw.apart_pipe hpipe hw.bar hne⟩
  | marked hc u =>
    have hindent : isApart indentSentinel w = true := hw.apart _ (by simp)
    rw [marked, List.append_assoc, List.drop_left' (show (spaces 3).length = 3 from rfl)]
    simp only [List.map_append, hmap, hfold (Or.inl rfl), hblank, infix_append_iff hindent,
      iff_self, and_self]
  | shielded hb =>
    have hbullet : isApart bulletSentinel w = true := hw.apart _ (by simp)
    obtain ⟨c, u, -, rfl⟩ := isCodeBullet_eq_true hb
    change (w <:+: spaces 4 ++ bulletSentinel ++ c :: u ↔ w <:+: spaces 4 ++ c :: u) ∧
      (w <:+: (spaces 4 ++ bulletSentinel ++ c :: u).map foldLetter ↔
        w <:+: (spaces 4 ++ c :: u).map foldLetter)
    simp only [List.append_assoc, List.map_append, hmap, hfold (Or.inr rfl), hblank,
      infix_append_iff hbullet, iff_self, and_self]

/-- A line ends raw markup exactly if it did before the shield. -/
theorem isEnd_of_reworking {e : MarkupEnd} (he : e = .literalTag ∨ ∃ w ∈ endMarks, e = .mark w)
    {t t' : Text} (h : Reworking t t') :
    e.isEnd (t'.dropWhile Line.isIndentation) = e.isEnd (t.dropWhile Line.isIndentation) := by
  rw [Bool.eq_iff_iff]
  rcases he with rfl | ⟨w, hw, rfl⟩
  · simp only [MarkupEnd.isEnd, List.any_eq_true, isSome_behind?_iff]
    refine exists_congr fun name => and_congr_right fun hname => ?_
    have hmark : IsMark ("</".toList ++ name ++ ['>']) :=
      isMark_sound (isMark_of_mem _ (List.mem_append_right _ (List.mem_map_of_mem hname)))
    rw [hmark.infix_dropWhile_iff foldLetter (fun _ => foldLetter_of_isIndentation),
      hmark.infix_dropWhile_iff foldLetter (fun _ => foldLetter_of_isIndentation)]
    exact (hmark.infix_reworking_iff h).2
  · have hmark : IsMark w := isMark_sound (isMark_of_mem w (List.mem_append_left _ hw))
    have hdrop := hmark.infix_dropWhile_iff id (fun _ _ => rfl)
    simp only [List.map_id] at hdrop
    rw [MarkupEnd.isEnd, MarkupEnd.isEnd, isSome_behind?_iff, isSome_behind?_iff, hdrop, hdrop]
    exact (hmark.infix_reworking_iff h).1

end Concordance.Shield
