import Concordance.Proofs.Shield.Continuations
import Concordance.Proofs.Text.Replacement
import Mathlib.Algebra.Ring.Parity

/-!
# Which bullets of nested code are shielded

Bullets are shielded line by line, with a switch that every nested fence turns.  The same is said
about the whole text, without lines and without a switch: cut the text at the nested fences, and in
every second piece but the last replace the bullets that stand behind a line feed and four spaces.

* `getElem?_shieldBulletsFrom`: a bullet is shielded behind an odd number of fences, if one more
  follows.
* `replaceBullets_codeBullets` and `joinWith_shieldSegments`: the replacements meet one line after
  another, and none of them makes or hides an occurrence for the next.
* The last theorem puts both together for a whole text.
-/

namespace Concordance.Shield

open Text

/-! ## Line by line -/

/-- A line that opens or closes nested code. -/
def BeginsNestedFence (line : Text) : Prop := spaces 4 ++ ['\x60', '\x60', '\x60'] <+: line

/-- A line of nested code that begins with a bullet. -/
def BeginsCodeBullet (line : Text) : Prop := ∃ c ∈ ['*', '+', '-'], spaces 4 ++ [c] <+: line

/-- How many nested fences stand before a line; the first line is none. -/
def fencesBefore (lines : List Text) (i : Nat) : Nat :=
  ((lines.take i).drop 1).countP isNestedFence

/-- A line with a bullet between a nested fence that opens and one that closes. -/
structure IsNestedCodeBullet (lines : List Text) (i : Nat) : Prop where
  not_first : 1 ≤ i
  bullet : LineAt lines i BeginsCodeBullet
  opened : Odd (fencesBefore lines i)
  closed : ∃ j, i < j ∧ LineAt lines j BeginsNestedFence

theorem isNestedFence_iff {line : Text} : isNestedFence line = true ↔ BeginsNestedFence line := by
  rw [isNestedFence, startsWith_iff, BeginsNestedFence]

theorem isCodeBullet_iff {line : Text} : isCodeBullet line = true ↔ BeginsCodeBullet line := by
  simp [isCodeBullet, startsWith_iff, BeginsCodeBullet, or_assoc]

theorem isCodeBullet_of_isNestedFence {line : Text} (h : isNestedFence line = true) :
    isCodeBullet line = false := by
  obtain ⟨t, rfl⟩ := isNestedFence_iff.1 h
  rfl

theorem any_isNestedFence_iff {ls : List Text} :
    ls.any isNestedFence = true ↔ ∃ j, LineAt ls j BeginsNestedFence := by
  simp only [List.any_eq_true, isNestedFence_iff, LineAt, List.mem_iff_getElem?]
  constructor
  · rintro ⟨line, ⟨j, hj⟩, hline⟩
    exact ⟨j, line, hj, hline⟩
  · rintro ⟨j, line, hj, hline⟩
    exact ⟨line, ⟨j, hj⟩, hline⟩

/-- Behind a fence that opens exactly if `inside`, a bullet is shielded if the fences before it
leave the code open and one more fence follows. -/
theorem getElem?_shieldBulletsFrom (inside : Bool) (ls : List Text) {k : Nat} {line : Text}
    (hline : ls[k]? = some line) :
    (shieldBulletsFrom inside ls)[k]? =
      some (if isCodeBullet line = true ∧
        (inside = true ↔ Even ((ls.take k).countP isNestedFence)) ∧
        (ls.drop (k + 1)).any isNestedFence = true then shielded line else line) := by
  induction ls generalizing inside k with
  | nil => cases hline
  | cons l ls ih =>
    rw [shieldBulletsFrom_cons]
    cases k with
    | zero =>
      obtain rfl : l = line := Option.some.inj hline
      split
      · rename_i hfence
        simp [isCodeBullet_of_isNestedFence hfence]
      · simp [and_assoc, and_left_comm]
    | succ k =>
      split
      · rename_i hfence
        rw [List.getElem?_cons_succ, ih _ hline]
        cases inside <;> simp [hfence, Nat.even_add_one]
      · rename_i hfence
        rw [List.getElem?_cons_succ, ih _ hline]
        simp [hfence]

/-- The first line counts for nothing: a bullet behind it is one of nested code if the fences from
the second line on are odd in number before it, and one more follows. -/
theorem isNestedCodeBullet_succ_iff {first line : Text} {rest : List Text} {k : Nat}
    (hline : (first :: rest)[k + 1]? = some line) :
    IsNestedCodeBullet (first :: rest) (k + 1) ↔ isCodeBullet line = true ∧
      (false = true ↔ Even ((rest.take k).countP isNestedFence)) ∧
      (rest.drop (k + 1)).any isNestedFence = true := by
  have hat : ∀ j, (rest.drop (k + 1))[j]? = (first :: rest)[k + 2 + j]? := fun j => by
    rw [List.getElem?_drop, show k + 2 + j = k + 1 + j + 1 by omega, List.getElem?_cons_succ]
  have hodd : Odd (fencesBefore (first :: rest) (k + 1)) ↔
      (false = true ↔ Even ((rest.take k).countP isNestedFence)) := by
    rw [fencesBefore, List.take_succ_cons, List.drop_one, List.tail_cons, ← Nat.not_even_iff_odd]
    simp
  rw [any_isNestedFence_iff, isCodeBullet_iff, ← hodd]
  constructor
  · rintro ⟨-, ⟨_, hbullet, hline'⟩, hopened, j, hj, hclosed⟩
    obtain rfl := Option.some.inj (hline.symm.trans hbullet)
    obtain ⟨m, rfl⟩ := Nat.exists_eq_add_of_le hj
    exact ⟨hline', hopened, m, by rwa [LineAt, hat]⟩
  · rintro ⟨hline', hopened, m, hclosed⟩
    exact ⟨Nat.le_add_left 1 k, ⟨line, hline, hline'⟩,
      hopened, k + 2 + m, by omega, by rwa [LineAt, ← hat]⟩

/-- Exactly the bullets between a nested fence that opens and one that closes are shielded. -/
theorem getElem?_shieldBullets {lines : List Text} {i : Nat} {line : Text}
    (hline : lines[i]? = some line) :
    (IsNestedCodeBullet lines i → (shieldBullets lines)[i]? = some (shielded line)) ∧
      (¬ IsNestedCodeBullet lines i → (shieldBullets lines)[i]? = some line) := by
  cases lines with
  | nil => cases hline
  | cons first rest =>
    cases i with
    | zero => exact ⟨fun h => absurd h.not_first (by decide), fun _ => hline⟩
    | succ k =>
      have hiff := isNestedCodeBullet_succ_iff hline
      rw [shieldBullets, List.getElem?_cons_succ, getElem?_shieldBulletsFrom false rest hline]
      exact ⟨fun h => by rw [if_pos (hiff.1 h)], fun h => by rw [if_neg fun hc => h (hiff.2 hc)]⟩

/-! ## Pieces between nested fences -/

/-- The pieces of a text between the occurrences of `p` behind the first `skip` characters. -/
def cutFrom (p : Text) : Nat → Text → List Text
  | _, [] => [[]]
  | skip + 1, _ :: t => cutFrom p skip t
  | 0, c :: t =>
    if startsWith p (c :: t) then [] :: cutFrom p (p.length - 1) t
    else consFirst c (cutFrom p 0 t)

/-- The pieces of a text between the occurrences of `p`, from left to right. -/
def cutAll (p t : Text) : List Text := cutFrom p 0 t

/-- Put a text in front of the first piece. -/
def prependFirst (w : Text) : List Text → List Text
  | [] => [w]
  | p :: ps => (w ++ p) :: ps

/-- A line feed and what opens or closes nested code. -/
def nestedFence : Text := '\n' :: (spaces 4 ++ ['\x60', '\x60', '\x60'])

/-- Shield a bullet wherever it stands behind a line feed and four spaces. -/
def replaceBullet (c : Char) (t : Text) : Text :=
  replaceAll ('\n' :: (spaces 4 ++ [c])) ('\n' :: (spaces 4 ++ bulletSentinel ++ [c])) t

/-- Shield one kind of bullet after another. -/
def replaceBullets (bullets : List Char) (t : Text) : Text :=
  bullets.foldl (fun t c => replaceBullet c t) t

/-- Shield the bullets in every second piece, but not in the last; `inside` says whether the first
one counts. -/
def shieldSegments (inside : Bool) : List Text → List Text
  | [] => []
  | [p] => [p]
  | p :: q :: ps =>
    (if inside then replaceBullets ['*', '+', '-'] p else p) :: shieldSegments (!inside) (q :: ps)

/-- Shield the bullets of nested code in a whole text. -/
def shieldNestedCode (t : Text) : Text :=
  joinWith nestedFence (shieldSegments false (cutAll nestedFence t))

variable {p s t w l : Text} {ps : List Text}

theorem cutFrom_eq (p : Text) (skip : Nat) (t : Text) :
    cutFrom p skip t = cutAll p (t.drop skip) := by
  induction t generalizing skip with
  | nil => cases skip <;> rfl
  | cons c t ih =>
    cases skip with
    | zero => rfl
    | succ skip => rw [cutFrom, ih, List.drop_succ_cons]

theorem cutAll_cons_of_absent {c : Char} (h : ¬ p <+: c :: t) :
    cutAll p (c :: t) = consFirst c (cutAll p t) := by
  rw [cutAll, cutFrom, if_neg fun hstart => h (startsWith_iff.1 hstart), cutAll]

theorem cutAll_append_self (hp : p ≠ []) (t : Text) : cutAll p (p ++ t) = [] :: cutAll p t := by
  obtain ⟨c, q, rfl⟩ := List.exists_cons_of_ne_nil hp
  have hstart : startsWith (c :: q) (c :: (q ++ t)) = true :=
    startsWith_iff.2 (List.prefix_append (c :: q) t)
  rw [List.cons_append, cutAll, cutFrom, if_pos hstart, cutFrom_eq, List.length_cons,
    Nat.add_sub_cancel, List.drop_left]

/-! ### The first piece -/

theorem prependFirst_cons {c : Char} (w : Text) (ps : List Text) :
    prependFirst (c :: w) ps = consFirst c (prependFirst w ps) := by
  cases ps <;> rfl

theorem prependFirst_nil (hps : ps ≠ []) : prependFirst [] ps = ps := by
  obtain ⟨p, ps, rfl⟩ := List.exists_cons_of_ne_nil hps
  rfl

theorem cutFrom_ne_nil (p : Text) (skip : Nat) (t : Text) : cutFrom p skip t ≠ [] := by
  fun_induction cutFrom p skip t with
  | case1 => exact List.cons_ne_nil _ _
  | case2 _ _ _ ih => exact ih
  | case3 => exact List.cons_ne_nil _ _
  | case4 c t _ ih => cases h : cutFrom p 0 t <;> exact List.cons_ne_nil _ _

/-- What holds no line feed stands in front of the first piece. -/
theorem cutAll_nestedFence_append (hw : '\n' ∉ w) (t : Text) :
    cutAll nestedFence (w ++ t) = prependFirst w (cutAll nestedFence t) := by
  induction w with
  | nil => exact (prependFirst_nil (cutFrom_ne_nil _ 0 t)).symm
  | cons c w ih =>
    obtain ⟨hc, hw⟩ := List.ne_and_not_mem_of_not_mem_cons hw
    have habsent : ¬ nestedFence <+: c :: (w ++ t) := fun h => hc (List.cons_prefix_cons.1 h).1
    rw [List.cons_append, cutAll_cons_of_absent habsent, ih hw, prependFirst_cons]

theorem joinWith_prependFirst (hps : ps ≠ []) (sep w : Text) :
    joinWith sep (prependFirst w ps) = w ++ joinWith sep ps := by
  obtain ⟨p, ps, rfl⟩ := List.exists_cons_of_ne_nil hps
  cases ps with
  | nil => rfl
  | cons q ps => simp [prependFirst, joinWith_cons_cons]

theorem prependFirst_ne_nil (w : Text) (ps : List Text) : prependFirst w ps ≠ [] := by
  cases ps <;> exact List.cons_ne_nil _ _

theorem joinWith_cons (sep p : Text) (hps : ps ≠ []) :
    joinWith sep (p :: ps) = p ++ sep ++ joinWith sep ps := by
  obtain ⟨q, ps, rfl⟩ := List.exists_cons_of_ne_nil hps
  exact joinWith_cons_cons sep p q ps

/-! ### One line after another -/

/-- A text that is empty or begins with a line feed. -/
def OnNewLine (t : Text) : Prop := ∀ c ∈ t.head?, c = '\n'

/-- Lines with a line feed in front of each. -/
def feed (ls : List Text) : Text := ls.flatMap ('\n' :: ·)

theorem onNewLine_feed (ls : List Text) : OnNewLine (feed ls) := by
  cases ls with
  | nil => exact nofun
  | cons l ls =>
    rintro _ ⟨⟩
    rfl

theorem unlines_eq_feed (l : Text) (ls : List Text) : unlines (l :: ls) = l ++ feed ls := by
  induction ls generalizing l with
  | nil => exact (List.append_nil l).symm
  | cons m ms ih => rw [unlines_cons l (List.cons_ne_nil m ms), ih, feed, feed, List.flatMap_cons,
      List.cons_append]

/-- What stands at the beginning of a line stands in it. -/
theorem prefix_of_prefix_append (hp : '\n' ∉ p) (hs : OnNewLine s) (h : p <+: l ++ s) :
    p <+: l := by
  cases s with
  | nil => rwa [List.append_nil] at h
  | cons c s =>
    obtain rfl := hs c rfl
    exact prefix_of_prefix_append_feed hp h

theorem replaceAll_append (hw : '\n' ∉ w) (p r s : Text) :
    replaceAll ('\n' :: p) r (w ++ s) = w ++ replaceAll ('\n' :: p) r s := by
  induction w with
  | nil => rfl
  | cons c w ih =>
    obtain ⟨hc, hw⟩ := List.ne_and_not_mem_of_not_mem_cons hw
    have habsent : ¬ '\n' :: p <+: c :: (w ++ s) := fun h => hc (List.cons_prefix_cons.1 h).1
    rw [List.cons_append, replaceAll_cons_of_absent habsent, ih hw, List.cons_append]

theorem onNewLine_replaceAll (h : OnNewLine t) (p r : Text) :
    OnNewLine (replaceAll ('\n' :: p) ('\n' :: r) t) := by
  cases t with
  | nil => exact nofun
  | cons c t =>
    obtain rfl := h c rfl
    by_cases hp : p <+: t
    · obtain ⟨t, rfl⟩ := hp
      rw [← List.cons_append, replaceAll_append_self (List.cons_ne_nil _ p)]
      rintro _ ⟨⟩
      rfl
    · rw [replaceAll_cons_of_absent fun h => hp (List.cons_prefix_cons.1 h).2]
      rintro _ ⟨⟩
      rfl

/-- One kind of bullet is shielded line by line. -/
theorem replaceBullet_line {c : Char} (hc : c ≠ '\n') (hl : '\n' ∉ l) (hs : OnNewLine s) :
    replaceBullet c ('\n' :: (l ++ s)) =
      '\n' :: ((if startsWith (spaces 4 ++ [c]) l then shielded l else l) ++
        replaceBullet c s) := by
  have hbullet : '\n' ∉ spaces 4 ++ [c] := by simp [spaces, Ne.symm hc]
  by_cases hp : spaces 4 ++ [c] <+: l
  · rw [if_pos (startsWith_iff.2 hp)]
    obtain ⟨v, rfl⟩ := hp
    have hv : '\n' ∉ v := fun h => hl (List.mem_append_right _ h)
    have hrest :=
      replaceAll_append hv (spaces 4 ++ [c]) ('\n' :: (spaces 4 ++ bulletSentinel ++ [c])) s
    have hfirst := replaceAll_append_self (List.cons_ne_nil '\n' (spaces 4 ++ [c]))
      ('\n' :: (spaces 4 ++ bulletSentinel ++ [c])) (v ++ s)
    have hsplit : '\n' :: (spaces 4 ++ [c] ++ v ++ s) = '\n' :: (spaces 4 ++ [c]) ++ (v ++ s) := by
      simp
    rw [replaceBullet, hsplit, hfirst, hrest]
    simp [shielded, spaces, replaceBullet]
  · have habsent : ¬ '\n' :: (spaces 4 ++ [c]) <+: '\n' :: (l ++ s) := fun h =>
      hp (prefix_of_prefix_append hbullet hs (List.cons_prefix_cons.1 h).2)
    rw [if_neg fun h => hp (startsWith_iff.1 h), replaceBullet, replaceAll_cons_of_absent habsent,
      replaceAll_append hl, replaceBullet]

/-- A line whose bullet is shielded begins with no bullet. -/
theorem startsWith_shielded {c : Char} (hc : c ≠ 'c') (l : Text) :
    startsWith (spaces 4 ++ [c]) (shielded l) = false := by
  rw [shielded_eq_cons, startsWith]
  generalize bulletSentinel.tail ++ l.drop 4 = t
  simp [spaces, List.replicate, List.isPrefixOf, hc]

/-- Kinds of bullets are shielded line by line, one kind after another. -/
theorem replaceBullets_line {bullets : List Char} (hbullets : ∀ c ∈ bullets, c ≠ '\n' ∧ c ≠ 'c')
    (hl : '\n' ∉ l) (hs : OnNewLine s) :
    replaceBullets bullets ('\n' :: (l ++ s)) =
      '\n' :: ((if bullets.any fun c => startsWith (spaces 4 ++ [c]) l then shielded l else l) ++
        replaceBullets bullets s) := by
  induction bullets generalizing l s with
  | nil => rfl
  | cons c cs ih =>
    obtain ⟨⟨hfeed, hc⟩, hcs⟩ := List.forall_mem_cons.1 hbullets
    have hs' : OnNewLine (replaceBullet c s) := onNewLine_replaceAll hs _ _
    rw [replaceBullets, List.foldl_cons, replaceBullet_line hfeed hl hs]
    by_cases hstart : startsWith (spaces 4 ++ [c]) l = true
    · have hshielded : '\n' ∉ shielded l := by
        intro h
        rcases List.mem_append.1 h with h | h
        · exact absurd h (by decide)
        · exact hl (List.mem_of_mem_drop h)
      have hnone : cs.any (fun c => startsWith (spaces 4 ++ [c]) (shielded l)) = false :=
        List.any_eq_false.2 fun d hd => by
          rw [startsWith_shielded (hcs d hd).2 l]; exact Bool.false_ne_true
      have hrest := ih hcs hshielded hs'
      rw [hnone] at hrest
      rw [if_pos hstart, List.any_cons, hstart]
      exact hrest
    · rw [if_neg hstart, List.any_cons, Bool.eq_false_iff.2 hstart, Bool.false_or]
      exact ih hcs hl hs'

/-- The three kinds of bullets together are those of nested code. -/
theorem replaceBullets_codeBullets (hl : '\n' ∉ l) (hs : OnNewLine s) :
    replaceBullets ['*', '+', '-'] ('\n' :: (l ++ s)) =
      '\n' :: ((if isCodeBullet l then shielded l else l) ++
        replaceBullets ['*', '+', '-'] s) := by
  have hbullets : ∀ c ∈ ['*', '+', '-'], c ≠ '\n' ∧ c ≠ 'c' := by
    intro c hc
    simp only [List.mem_cons, List.not_mem_nil, or_false] at hc
    rcases hc with rfl | rfl | rfl <;> decide
  have hkinds : (['*', '+', '-'].any fun c => startsWith (spaces 4 ++ [c]) l) =
      isCodeBullet l := by
    simp [isCodeBullet, Bool.or_assoc]
  rw [replaceBullets_line hbullets hl hs, hkinds]

theorem replaceBullets_append (bullets : List Char) (hw : '\n' ∉ w) (s : Text) :
    replaceBullets bullets (w ++ s) = w ++ replaceBullets bullets s := by
  induction bullets generalizing s with
  | nil => rfl
  | cons c cs ih =>
    rw [replaceBullets, List.foldl_cons, replaceBullet, replaceAll_append hw]
    exact ih _

/-! ### The whole text -/

theorem shieldSegments_cons (inside : Bool) (p : Text) (hps : ps ≠ []) :
    shieldSegments inside (p :: ps) =
      (if inside then replaceBullets ['*', '+', '-'] p else p) :: shieldSegments (!inside) ps := by
  obtain ⟨q, ps, rfl⟩ := List.exists_cons_of_ne_nil hps
  rfl

theorem shieldSegments_ne_nil (inside : Bool) (hps : ps ≠ []) : shieldSegments inside ps ≠ [] := by
  match ps, hps with
  | [p], _ => exact List.cons_ne_nil _ _
  | p :: q :: ps, _ => exact List.cons_ne_nil _ _

theorem shieldSegments_prependFirst (inside : Bool) (hw : '\n' ∉ w) (hps : ps ≠ []) :
    shieldSegments inside (prependFirst w ps) = prependFirst w (shieldSegments inside ps) := by
  obtain ⟨p, ps, rfl⟩ := List.exists_cons_of_ne_nil hps
  by_cases hlast : ps = []
  · rw [hlast]
    rfl
  · rw [prependFirst, shieldSegments_cons _ _ hlast, shieldSegments_cons _ _ hlast, prependFirst]
    cases inside with
    | false => rfl
    | true => simp only [if_true, replaceBullets_append _ hw]

theorem feed_cons (l : Text) (ls : List Text) : feed (l :: ls) = '\n' :: (l ++ feed ls) := by
  rw [feed, List.flatMap_cons, List.cons_append, feed]

/-- Before a nested fence a piece ends. -/
theorem cutAll_feed_of_fence (rest : List Text) (hl : '\n' ∉ l) (hfence : isNestedFence l = true) :
    ∃ w, '\n' ∉ w ∧ '\n' :: l = nestedFence ++ w ∧
      cutAll nestedFence (feed (l :: rest)) =
        [] :: prependFirst w (cutAll nestedFence (feed rest)) := by
  obtain ⟨w, rfl⟩ := isNestedFence_iff.1 hfence
  have hw : '\n' ∉ w := fun h => hl (List.mem_append_right _ h)
  refine ⟨w, hw, rfl, ?_⟩
  rw [feed_cons, List.append_assoc, ← List.cons_append, ← nestedFence,
    cutAll_append_self (show nestedFence ≠ [] from List.cons_ne_nil _ _),
    cutAll_nestedFence_append hw]

/-- Another line belongs to the piece of the line behind it. -/
theorem cutAll_feed_of_not_fence (rest : List Text) (hl : '\n' ∉ l)
    (hfence : ¬ isNestedFence l = true) :
    cutAll nestedFence (feed (l :: rest)) =
      prependFirst ('\n' :: l) (cutAll nestedFence (feed rest)) := by
  have habsent : ¬ nestedFence <+: '\n' :: (l ++ feed rest) := fun h =>
    hfence (isNestedFence_iff.2 (prefix_of_prefix_append (by decide) (onNewLine_feed rest)
      (List.cons_prefix_cons.1 h).2))
  rw [feed_cons, cutAll_cons_of_absent habsent, cutAll_nestedFence_append hl, prependFirst_cons]

/-- The first piece ends in front of a line, and there are more if and only if a fence follows. -/
theorem exists_cutAll_feed {rest : List Text} (hrest : ∀ l ∈ rest, '\n' ∉ l) :
    ∃ s ps, cutAll nestedFence (feed rest) = s :: ps ∧ OnNewLine s ∧
      (ps = [] ↔ rest.any isNestedFence = false) := by
  induction rest with
  | nil => exact ⟨[], [], rfl, nofun, by simp⟩
  | cons l rest ih =>
    obtain ⟨hl, hrest⟩ := List.forall_mem_cons.1 hrest
    obtain ⟨s, ps, hcut, -, hps⟩ := ih hrest
    by_cases hfence : isNestedFence l = true
    · obtain ⟨w, -, -, hw⟩ := cutAll_feed_of_fence rest hl hfence
      refine ⟨[], _, hw, nofun, iff_of_false ?_ ?_⟩
      · rw [hcut]
        exact List.cons_ne_nil _ _
      · simp [hfence]
    · refine ⟨'\n' :: (l ++ s), ps, ?_, ?_, ?_⟩
      · rw [cutAll_feed_of_not_fence rest hl hfence, hcut]
        rfl
      · rintro _ ⟨⟩
        rfl
      · rw [hps, List.any_cons, Bool.eq_false_iff.2 hfence, Bool.false_or]

/-- Line by line and piece by piece the same bullets are shielded. -/
theorem joinWith_shieldSegments (inside : Bool) {rest : List Text} (hrest : ∀ l ∈ rest, '\n' ∉ l) :
    joinWith nestedFence (shieldSegments inside (cutAll nestedFence (feed rest))) =
      feed (shieldBulletsFrom inside rest) := by
  induction rest generalizing inside with
  | nil => rfl
  | cons l rest ih =>
    obtain ⟨hl, hrest⟩ := List.forall_mem_cons.1 hrest
    rw [shieldBulletsFrom_cons]
    by_cases hfence : isNestedFence l = true
    · obtain ⟨w, hw, hlw, hcut⟩ := cutAll_feed_of_fence rest hl hfence
      have hne : cutAll nestedFence (feed rest) ≠ [] := cutFrom_ne_nil _ 0 _
      have hfirst : (if inside then replaceBullets ['*', '+', '-'] [] else []) = [] := by
        cases inside <;> rfl
      rw [if_pos hfence, hcut, shieldSegments_cons _ _ (prependFirst_ne_nil w _), hfirst,
        shieldSegments_prependFirst _ hw hne, joinWith_cons _ _ (prependFirst_ne_nil w _),
        joinWith_prependFirst (shieldSegments_ne_nil _ hne), ih _ hrest, feed_cons,
        List.nil_append, ← List.append_assoc, ← hlw, List.cons_append]
    · obtain ⟨s, ps, hcut, hs, hps⟩ := exists_cutAll_feed hrest
      have hih := ih inside hrest
      rw [hcut] at hih
      rw [if_neg hfence, cutAll_feed_of_not_fence rest hl hfence, hcut, prependFirst]
      by_cases hlast : ps = []
      · rw [hlast] at hih ⊢
        rw [hps.1 hlast, Bool.and_false, if_neg Bool.false_ne_true, feed_cons, ← hih]
        rfl
      · have hany : rest.any isNestedFence = true := Bool.of_not_eq_false fun h => hlast (hps.2 h)
        have hne : shieldSegments (!inside) ps ≠ [] := shieldSegments_ne_nil _ hlast
        rw [shieldSegments_cons _ _ hlast, joinWith_cons _ _ hne] at hih ⊢
        rw [feed_cons, ← hih, hany, Bool.and_true]
        cases inside with
        | false => simp
        | true =>
          rw [if_pos rfl, if_pos rfl, List.cons_append, replaceBullets_codeBullets hl hs]
          simp

/-- A text without carriage returns is its lines with line feeds between them. -/
theorem unlines_lines (h : '\r' ∉ t) : unlines (lines t) = t := by
  have hpair : ¬ ['\r', '\n'] <:+: t := fun hin => h (hin.subset List.mem_cons_self)
  have hsingle : ¬ ['\r'] <:+: t := fun hin => h (hin.subset List.mem_cons_self)
  rw [← normalizeBreaks, normalizeBreaks_eq_replaceAll, replaceAll_of_absent hpair,
    replaceAll_of_absent hsingle]

theorem shieldNestedCode_unlines {ls : List Text} (hne : ls ≠ []) (hls : ∀ l ∈ ls, '\n' ∉ l) :
    shieldNestedCode (unlines ls) = unlines (shieldBullets ls) := by
  obtain ⟨first, rest, rfl⟩ := List.exists_cons_of_ne_nil hne
  obtain ⟨hfirst, hrest⟩ := List.forall_mem_cons.1 hls
  have hpieces : cutAll nestedFence (feed rest) ≠ [] := cutFrom_ne_nil _ 0 _
  rw [shieldNestedCode, unlines_eq_feed, cutAll_nestedFence_append hfirst,
    shieldSegments_prependFirst _ hfirst hpieces,
    joinWith_prependFirst (shieldSegments_ne_nil _ hpieces), joinWith_shieldSegments false hrest,
    shieldBullets, unlines_eq_feed]

/-- Shielding a whole text shields its lines. -/
theorem shieldNestedCode_eq (h : '\r' ∉ t) :
    shieldNestedCode t = unlines (shieldBullets (lines t)) := by
  conv_lhs => rw [← unlines_lines h]
  exact shieldNestedCode_unlines (lines_ne_nil t) fun l hl => (isLine_of_mem_lines hl).2

theorem lines_unlines_shieldBullets (t : Text) :
    lines (unlines (shieldBullets (lines t))) = shieldBullets (lines t) := by
  have hlength := (forall₂_shieldBullets (lines t)).length_eq
  refine lines_unlines (fun hnil => lines_ne_nil t (List.length_eq_zero_iff.1 ?_)) fun l hl => ?_
  · rw [hlength, hnil, List.length_nil]
  · rcases mem_shieldBullets hl with hl | ⟨m, hm, rfl⟩
    · exact isLine_of_mem_lines hl
    · exact isLine_shielded (isLine_of_mem_lines hm)

/-- **Exactly the bullets of nested code are shielded.**  Cut at its nested fences, with the
bullets replaced in every second piece but the last, a text without carriage returns keeps the
number of its lines.  A line changes if and only if it is not the first, begins with four spaces
and a bullet, and stands behind an odd number of nested fences and before one more; then the
sentinel comes in behind its fourth space. -/
theorem shieldNestedCode_exact (h : '\r' ∉ t) :
    shieldNestedCode t = unlines (shieldBullets (lines t)) ∧
    (lines (shieldNestedCode t)).length = (lines t).length ∧
    ∀ i line, (lines t)[i]? = some line →
      ((lines (shieldNestedCode t))[i]? ≠ some line ↔ IsNestedCodeBullet (lines t) i) ∧
      (IsNestedCodeBullet (lines t) i →
        (lines (shieldNestedCode t))[i]? =
          some (line.take 4 ++ bulletSentinel ++ line.drop 4)) := by
  refine ⟨shieldNestedCode_eq h, ?_, fun i line hline => ?_⟩
  · rw [shieldNestedCode_eq h, lines_unlines_shieldBullets]
    exact (forall₂_shieldBullets _).length_eq.symm
  · rw [shieldNestedCode_eq h, lines_unlines_shieldBullets]
    obtain ⟨hbullet, hother⟩ := getElem?_shieldBullets hline
    refine ⟨⟨fun hne => ?_, fun hat => ?_⟩, fun hat => ?_⟩
    · by_contra hat
      exact hne (hother hat)
    · rw [hbullet hat]
      exact fun heq => spaces_append_drop_ne (by decide : bulletSentinel ≠ []) 4 line
        (Option.some.inj heq)
    · obtain ⟨line', hline', c, -, s, rfl⟩ := hat.bullet
      obtain rfl := Option.some.inj (hline'.symm.trans hline)
      exact hbullet hat

theorem shieldNestedCode_between_fences :
    '\r' ∉ "*  a\n    ```\n    * b\n    ```".toList ∧
      (lines (shieldNestedCode "*  a\n    ```\n    * b\n    ```".toList))[2]? =
        some "    ceci_n'est_pas_une_* b".toList := by
  have h : '\r' ∉ "*  a\n    ```\n    * b\n    ```".toList := by decide
  have hbullet : IsNestedCodeBullet (lines "*  a\n    ```\n    * b\n    ```".toList) 2 :=
    { not_first := by decide
      bullet := ⟨"    * b".toList, rfl, isCodeBullet_iff.1 rfl⟩
      opened := by decide
      closed := ⟨3, by decide, "    ```".toList, rfl, isNestedFence_iff.1 rfl⟩ }
  exact ⟨h, ((shieldNestedCode_exact h).2.2 2 _ rfl).2 hbullet⟩

end Concordance.Shield
