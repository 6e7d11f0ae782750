import Concordance.Proofs.Shield.Rewriting
import Concordance.Proofs.Text.Replacement

/-!
# Taking the sentinels out again

Whoever renders a shielded document takes the sentinels out of it.  What comes back is the text as
it was, unless it held sentinels of its own: none begins in the text and ends in a sentinel that
was put in, or the other way round.  Every sentinel begins with `ce`, and behind its first
character each `c` is followed by an `i`.

* `replaceAll_append_of_isInner` and `replaceAll_append_of_ne`: a search for one sentinel comes by
  another.
* `Barred.replaceAll_eq` puts the bars of a row back.
* `unshield_reworking` treats one line, and `unshield_shield` texts.
-/

namespace Concordance.Shield

open Text

/-- Take the sentinels out of a text, those for bars first. -/
def unshield (t : Text) : Text :=
  removeAll bulletSentinel (removeAll indentSentinel (replaceAll pipeSentinel ['|'] t))

theorem unshield_eq (t : Text) :
    unshield t = replaceAll bulletSentinel [] (replaceAll indentSentinel []
      (replaceAll pipeSentinel ['|'] t)) :=
  rfl

/-! ## Where a sentinel can begin -/

/-- Whether each `c` of a text is followed by an `i`. -/
def isInner : Text → Bool
  | [] => true
  | c :: t => (c != 'c' || t.head? == some 'i') && isInner t

theorem isInner_of_cons {c : Char} {t : Text} (h : isInner (c :: t) = true) :
    (c = 'c' → ∃ u, t = 'i' :: u) ∧ isInner t = true := by
  simp only [isInner, Bool.and_eq_true, Bool.or_eq_true, bne_iff_ne, beq_iff_eq] at h
  exact ⟨fun hc => List.head?_eq_some_iff.1 (h.1.resolve_left (not_not_intro hc)), h.2⟩

theorem isInner_spaces (n : Nat) : isInner (spaces n) = true := by
  induction n with
  | zero => rfl
  | succ n ih => exact ih

/-- What the three sentinels have in common: they begin with `ce`, and that stands nowhere else in
them. -/
def IsSentinel (s : Text) : Prop := ∃ p, s = 'c' :: 'e' :: p ∧ isInner ('e' :: p) = true

theorem isSentinel_pipe : IsSentinel pipeSentinel := ⟨_, rfl, by decide⟩

theorem isSentinel_indent : IsSentinel indentSentinel := ⟨_, rfl, by decide⟩

theorem isSentinel_bullet : IsSentinel bulletSentinel := ⟨_, rfl, by decide⟩

theorem IsSentinel.ne_nil {s : Text} (hs : IsSentinel s) : s ≠ [] := by
  obtain ⟨p, rfl, -⟩ := hs
  exact List.cons_ne_nil _ _

section

variable {s : Text} (hs : IsSentinel s)

include hs

/-- No sentinel begins where each `c` is followed by an `i`, whatever comes behind. -/
theorem replaceAll_append_of_isInner {q : Text} (hq : isInner q = true) (r t : Text) :
    replaceAll s r (q ++ t) = q ++ replaceAll s r t := by
  obtain ⟨p, rfl, -⟩ := hs
  induction q with
  | nil => rfl
  | cons c q ih =>
    obtain ⟨hc, hq⟩ := isInner_of_cons hq
    have habsent : ¬ 'c' :: 'e' :: p <+: c :: (q ++ t) := by
      intro hbegins
      obtain ⟨rfl, hrest⟩ := List.cons_prefix_cons.1 hbegins
      obtain ⟨q, rfl⟩ := hc rfl
      exact absurd (List.cons_prefix_cons.1 hrest).1 (by decide)
    rw [List.cons_append, replaceAll_cons_of_absent habsent, ih hq, List.cons_append]

/-- A search for a sentinel comes by another one, unless it finds it right at the beginning. -/
theorem replaceAll_append_of_ne {s' t : Text} (hs' : IsSentinel s')
    (h : ¬ s <+: s' ++ t) (r : Text) :
    replaceAll s r (s' ++ t) = s' ++ replaceAll s r t := by
  obtain ⟨p, rfl, hp⟩ := hs'
  rw [List.cons_append] at h
  rw [List.cons_append, replaceAll_cons_of_absent h, replaceAll_append_of_isInner hs hp]
  rfl

end

/-- Two texts that differ in a character: the one does not begin the other. -/
theorem not_prefix_of_getElem? {p t : Text} (n : Nat) {c : Char} (hp : p[n]? = some c)
    (ht : t[n]? ≠ some c) : ¬ p <+: t := by
  rintro ⟨s, rfl⟩
  refine ht ?_
  rw [List.getElem?_append_left (List.getElem?_eq_some_iff.1 hp).1, hp]

/-! ## Rows -/

/-- A text, and the same with some of its bars shielded. -/
inductive Barred : Text → Text → Prop where
  | nil : Barred [] []
  | char (c : Char) {t u : Text} (h : Barred t u) : Barred (c :: t) (c :: u)
  | bar {t u : Text} (h : Barred t u) : Barred ('|' :: t) (pipeSentinel ++ u)

namespace Barred

theorem refl (t : Text) : Barred t t := by
  induction t with
  | nil => exact .nil
  | cons c t ih => exact .char c ih

theorem append {t u t' u' : Text} (h : Barred t u) (h' : Barred t' u') :
    Barred (t ++ t') (u ++ u') := by
  induction h with
  | nil => exact h'
  | char c _ ih => exact .char c ih
  | bar _ ih =>
    rw [List.append_assoc]
    exact .bar ih

theorem replaceChar (t : Text) : Barred t (replaceChar '|' pipeSentinel t) := by
  induction t with
  | nil => exact .nil
  | cons c t ih =>
    rw [replaceChar_cons]
    split
    · rename_i hc
      exact hc ▸ .bar ih
    · exact .char c ih

theorem shieldPieces (inside : Bool) (ps : List Text) :
    Barred (joinWith ['\x60'] ps) (joinWith ['\x60'] (shieldPieces inside ps)) := by
  fun_induction Shield.shieldPieces inside ps with
  | case1 => exact .nil
  | case2 inside p => exact refl p
  | case3 inside p q ps ih =>
    have hpiece : Barred p (if inside then Text.replaceChar '|' pipeSentinel p else p) := by
      split
      · exact replaceChar p
      · exact refl p
    obtain ⟨q', ps', hq⟩ := List.exists_cons_of_ne_nil
      (@shieldPieces_ne_nil (!inside) _ (List.cons_ne_nil q ps))
    rw [hq] at ih ⊢
    rw [joinWith_cons_cons, joinWith_cons_cons]
    exact (hpiece.append (refl _)).append ih

theorem shieldPipes (line : Text) : Barred line (shieldPipes line) := by
  rw [Shield.shieldPipes]
  split
  · have h := shieldPieces false (splitOn '\x60' line)
    rwa [joinWith_splitOn] at h
  · exact refl line

/-- A text in which no sentinel begins stands in front with shielded bars only if it does
without. -/
theorem prefix_of_isInner {t u q : Text} (h : Barred t u) (hq : isInner q = true)
    (hbegins : q <+: u) : q <+: t := by
  induction h generalizing q with
  | nil => exact hbegins
  | char c _ ih =>
    cases q with
    | nil => exact List.nil_prefix
    | cons d q =>
      obtain ⟨rfl, hrest⟩ := List.cons_prefix_cons.1 hbegins
      exact List.cons_prefix_cons.2 ⟨rfl, ih (isInner_of_cons hq).2 hrest⟩
  | bar _ _ =>
    cases q with
    | nil => exact List.nil_prefix
    | cons d q =>
      exfalso
      obtain ⟨rfl, hrest⟩ := List.cons_prefix_cons.1 (show d :: q <+: 'c' :: 'e' :: _ from hbegins)
      obtain ⟨q, rfl⟩ := (isInner_of_cons hq).1 rfl
      exact absurd (List.cons_prefix_cons.1 hrest).1 (by decide)

/-- The bars of a row come back. -/
theorem replaceAll_eq {t u : Text} (h : Barred t u) (ht : ¬ pipeSentinel <:+: t) :
    replaceAll pipeSentinel ['|'] u = t := by
  obtain ⟨p, hp, hinner⟩ := isSentinel_pipe
  induction h with
  | nil => rfl
  | @char c t u h ih =>
    rw [List.infix_cons_iff, not_or] at ht
    have habsent : ¬ pipeSentinel <+: c :: u := by
      intro hbegins
      rw [hp] at hbegins ht
      obtain ⟨rfl, hrest⟩ := List.cons_prefix_cons.1 hbegins
      exact ht.1 (List.cons_prefix_cons.2 ⟨rfl, h.prefix_of_isInner hinner hrest⟩)
    rw [replaceAll_cons_of_absent habsent, ih ht.2]
  | bar h ih =>
    rw [List.infix_cons_iff, not_or] at ht
    rw [replaceAll_append_self isSentinel_pipe.ne_nil, ih ht.2, List.singleton_append]

end Barred

/-! ## One line -/

section

variable {t : Text}

theorem bulletSentinel_infix_of_pipeSentinel (h : pipeSentinel <:+: t) : bulletSentinel <:+: t :=
  (show bulletSentinel <+: pipeSentinel from ⟨"pipe".toList, rfl⟩).isInfix.trans h

theorem unshield_of_absent (hpipe : ¬ pipeSentinel <:+: t) (hindent : ¬ indentSentinel <:+: t)
    (hbullet : ¬ bulletSentinel <:+: t) : unshield t = t := by
  rw [unshield_eq, replaceAll_of_absent hpipe, replaceAll_of_absent hindent,
    replaceAll_of_absent hbullet]

theorem unshield_marked (hpipe : ¬ pipeSentinel <:+: t) (hindent : ¬ indentSentinel <:+: t)
    (hbullet : ¬ bulletSentinel <:+: t) :
    unshield (spaces 3 ++ (indentSentinel ++ t)) = spaces 3 ++ t := by
  have hspaces := isInner_spaces 3
  have hother : ¬ pipeSentinel <+: indentSentinel ++ t :=
    not_prefix_of_getElem? 4 (show _ = some '_' from rfl) (show some '-' ≠ some '_' by decide)
  rw [unshield_eq, replaceAll_append_of_isInner isSentinel_pipe hspaces,
    replaceAll_append_of_ne isSentinel_pipe isSentinel_indent hother, replaceAll_of_absent hpipe,
    replaceAll_append_of_isInner isSentinel_indent hspaces,
    replaceAll_append_self isSentinel_indent.ne_nil, List.nil_append, replaceAll_of_absent hindent,
    replaceAll_append_of_isInner isSentinel_bullet hspaces, replaceAll_of_absent hbullet]

/-- The character behind a sentinel for bullets tells it from one for bars. -/
theorem unshield_shielded (hpipe : ¬ pipeSentinel <:+: t) (hindent : ¬ indentSentinel <:+: t)
    (hbullet : ¬ bulletSentinel <:+: t) (hhead : t.head? ≠ some 'p') :
    unshield (spaces 4 ++ (bulletSentinel ++ t)) = spaces 4 ++ t := by
  have hspaces := isInner_spaces 4
  have hother : ¬ pipeSentinel <+: bulletSentinel ++ t := by
    refine not_prefix_of_getElem? 19 (show _ = some 'p' from rfl) ?_
    rw [List.getElem?_append_right (by decide)]
    rwa [List.head?_eq_getElem?] at hhead
  have hindent' : ¬ indentSentinel <+: bulletSentinel ++ t :=
    not_prefix_of_getElem? 4 (show _ = some '-' from rfl) (show some '_' ≠ some '-' by decide)
  rw [unshield_eq, replaceAll_append_of_isInner isSentinel_pipe hspaces,
    replaceAll_append_of_ne isSentinel_pipe isSentinel_bullet hother, replaceAll_of_absent hpipe,
    replaceAll_append_of_isInner isSentinel_indent hspaces,
    replaceAll_append_of_ne isSentinel_indent isSentinel_bullet hindent',
    replaceAll_of_absent hindent, replaceAll_append_of_isInner isSentinel_bullet hspaces,
    replaceAll_append_self isSentinel_bullet.ne_nil, List.nil_append, replaceAll_of_absent hbullet]

end

/-- However the shield has reworked a line, taking the sentinels out gives it back. -/
theorem unshield_reworking {l l' : Text} (h : Reworking l l') (hindent : ¬ indentSentinel <:+: l)
    (hbullet : ¬ bulletSentinel <:+: l) : unshield l' = l := by
  have hpipe : ¬ pipeSentinel <:+: l := fun h => hbullet (bulletSentinel_infix_of_pipeSentinel h)
  cases h with
  | row =>
    have hself := unshield_of_absent hpipe hindent hbullet
    rw [unshield_eq, replaceAll_of_absent hpipe] at hself
    rw [unshield_eq, (Barred.shieldPipes l).replaceAll_eq hpipe, hself]
  | @marked c _ t =>
    have hpart := (List.suffix_append (spaces 3) (c :: t)).isInfix
    rw [marked, List.append_assoc, List.drop_left' (show (spaces 3).length = 3 from rfl)]
    exact unshield_marked (fun h => hpipe (h.trans hpart)) (fun h => hindent (h.trans hpart))
      fun h => hbullet (h.trans hpart)
  | shielded hb =>
    obtain ⟨c, t, hc, rfl⟩ := isCodeBullet_eq_true hb
    have hpart : c :: t <:+: spaces 4 ++ c :: t := (List.suffix_append _ _).isInfix
    refine unshield_shielded (fun h => hpipe (h.trans hpart)) (fun h => hindent (h.trans hpart))
      (fun h => hbullet (h.trans hpart)) ?_
    rcases hc with rfl | rfl | rfl <;> exact fun h => absurd (Option.some.inj h) (by decide)

/-! ## Texts -/

theorem unshield_unlines (ls : List Text) : unshield (unlines ls) = unlines (ls.map unshield) := by
  have hreplace {s : Text} (hs : IsSentinel s) (hfeed : '\n' ∉ s) (r : Text) (ms : List Text) :
      replaceAll s r (unlines ms) = unlines (ms.map (replaceAll s r)) :=
    replaceAll_unlines hs.ne_nil hfeed r ms
  rw [unshield_eq, hreplace isSentinel_pipe (by decide), hreplace isSentinel_indent (by decide),
    hreplace isSentinel_bullet (by decide), List.map_map, List.map_map]
  rfl

theorem map_unshield_shieldLines {ls : List Text}
    (h : ∀ l ∈ ls, ¬ indentSentinel <:+: l ∧ ¬ bulletSentinel <:+: l) :
    (shieldLines ls).map unshield = ls := by
  have hreworking := forall₂_reworking_shieldLines ls
  generalize shieldLines ls = ls' at hreworking
  induction hreworking with
  | nil => rfl
  | @cons l l' ls ls' hl _ ih =>
    obtain ⟨hindent, hbullet⟩ := h l List.mem_cons_self
    rw [List.map_cons, unshield_reworking hl hindent hbullet,
      ih fun m hm => h m (List.mem_cons_of_mem l hm)]

/-- **Shielding loses nothing.**  A text without the sentinels for continuation paragraphs and for
bullets comes back when the sentinels are taken out again, with every line break, `\r\n` first, as
a line feed. -/
theorem unshield_shield {t : Text} (hindent : ¬ indentSentinel <:+: t)
    (hbullet : ¬ bulletSentinel <:+: t) :
    removeAll bulletSentinel (removeAll indentSentinel
      (replaceAll pipeSentinel ['|'] (shield t))) =
      replaceAll ['\r'] ['\n'] (replaceAll ['\r', '\n'] ['\n'] t) := by
  have hlines : (shieldLines (lines t)).map unshield = lines t :=
    map_unshield_shieldLines fun l hl =>
      ⟨fun h => hindent (h.trans (infix_of_mem_lines hl)),
        fun h => hbullet (h.trans (infix_of_mem_lines hl))⟩
  calc unshield (shield t) = unlines ((shieldLines (lines t)).map unshield) := unshield_unlines _
    _ = normalizeBreaks t := by rw [hlines, normalizeBreaks]
    _ = replaceAll ['\r'] ['\n']
      (replaceAll ['\r', '\n'] ['\n'] t) := normalizeBreaks_eq_replaceAll t

/-- A row, a bullet of the second level with a continuation paragraph behind it, and a bullet in
nested code; the lines end in three ways. -/
def notes : Text :=
  "|\x60a|b\x60|\r\n".toList ++ "*  one\r".toList ++ "   * two\n".toList ++ "   more\n".toList ++
    "    \x60\x60\x60\n".toList ++ "    * code\n".toList ++ "    \x60\x60\x60".toList

/-- The notes are shielded in three places, and come back. -/
theorem unshield_shield_notes :
    shield notes = unlines ["|\x60aceci_n'est_pas_une_pipeb\x60|".toList, "*  one".toList,
        "   * two".toList, "   ceci-n'est-pas-une-indentmore".toList, "    \x60\x60\x60".toList,
        "    ceci_n'est_pas_une_* code".toList, "    \x60\x60\x60".toList] ∧
      removeAll bulletSentinel
        (removeAll indentSentinel (replaceAll pipeSentinel ['|'] (shield notes))) =
        unlines ["|\x60a|b\x60|".toList, "*  one".toList, "   * two".toList, "   more".toList,
          "    \x60\x60\x60".toList, "    * code".toList, "    \x60\x60\x60".toList] := by
  refine ⟨by decide +kernel, ?_⟩
  rw [unshield_shield (by decide +kernel) (by decide +kernel)]
  decide +kernel

end Concordance.Shield
