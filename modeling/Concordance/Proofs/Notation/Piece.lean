import Concordance.Proofs.Notation.Lexeme

/-!
# Reading one piece

Which piece stands at the front of a text depends on the terminals that are admitted there:

* `piece?_append`: an admitted lexeme is read, if the text behind it does not glue to it and if it
  is not the spelling of an admitted keyword read as a name;
* `piece?_layout_append`: layout is read as far as it reaches;
* `piece?_cases`: what is read is admitted and a lexeme of its kind, or it is layout or a comment
  and is read wherever it stands.
-/

namespace Concordance.Notation

/-! ## Tokens and their kinds -/

/-- The text of a token is one that its terminal stands for. -/
def Token.IsLexeme (k : Token) : Prop := k.kind.Matches k.lexeme

/-- A name is not spelled like a keyword that is admitted where it stands. -/
def Token.Clear (accepts : Terminal → Bool) (k : Token) : Prop :=
  k.kind = .name → ∀ j, j = .fragment ∨ j = .grammar → accepts j = true → k.lexeme ≠ j.spelling

/-- No token begins with layout. -/
theorem isLayout_of_opens {k : Terminal} {c : Char} (h : k.opens c = true) :
    isLayout c = false := by
  rw [Bool.eq_false_iff]
  intro hc
  simp only [isLayout, Bool.or_eq_true, beq_iff_eq] at hc
  rcases hc with (((rfl | rfl) | rfl) | rfl) | rfl <;> cases k <;> exact absurd h (by decide)

/-- No token begins as a comment does. -/
theorem ne_slash_of_opens {k : Terminal} {c : Char} (h : k.opens c = true) : c ≠ '/' := by
  rintro rfl
  cases k <;> exact absurd h (by decide)

/-- A terminal that is not a word. -/
def Terminal.IsSign (k : Terminal) : Prop := k ≠ .name ∧ k ≠ .fragment ∧ k ≠ .grammar

theorem mem_signs {k : Terminal} : k ∈ Terminal.signs ↔ k.IsSign := by
  cases k <;> simp [Terminal.signs, Terminal.IsSign]

theorem isNameStart_of_opens_word {j : Terminal} {c : Char}
    (hj : j = .fragment ∨ j = .grammar) (h : j.opens c = true) : isNameStart c = true := by
  rcases hj with rfl | rfl <;> rw [Terminal.opens, beq_iff_eq] at h <;> subst h <;> decide

/-- What is not a word begins with a character that does not occur in words. -/
theorem not_isNameChar_of_opens {k : Terminal} {c : Char} (hk : k.IsSign) (h : k.opens c = true) :
    isNameChar c = false := by
  obtain ⟨hname, hfragment, hgrammar⟩ := hk
  cases k <;> simp only [Terminal.opens, Bool.or_eq_true, beq_iff_eq] at h
  case name => exact absurd rfl hname
  case fragment => exact absurd rfl hfragment
  case grammar => exact absurd rfl hgrammar
  case suffix => rcases h with (rfl | rfl) | rfl <;> decide
  case labelOp => rcases h with rfl | rfl <;> decide
  all_goals
    subst h
    decide

/-! ## Words -/

theorem not_isNameStart {c : Char} (h : isNameChar c = false) : isNameStart c = false := by
  rw [Bool.eq_false_iff] at h ⊢
  exact fun hc => h (isNameChar_of_isNameStart hc)

theorem word?_eq_none {accepts : Terminal → Bool} {c : Char} {t : Text}
    (h : isNameStart c = false) : word? accepts (c :: t) = none := by
  have hword : ∀ j, j = .fragment ∨ j = .grammar → Terminal.lexeme? j (c :: t) = none := by
    intro j hj
    refine lexeme?_eq_none ?_
    rw [Bool.eq_false_iff]
    intro ho
    rw [isNameStart_of_opens_word hj ho] at h
    exact absurd h (by simp)
  rw [word?, lexeme?_eq_none (k := .name) h]
  simp [hword .fragment (Or.inl rfl), hword .grammar (Or.inr rfl)]

theorem of_word? {accepts : Terminal → Bool} {t r : Text} {k : Token}
    (h : word? accepts t = some (k, r)) :
    accepts k.kind = true ∧ k.kind.lexeme? t = some (k.lexeme, r) ∧ k.Clear accepts := by
  rw [word?] at h
  split at h
  · rename_i hname
    obtain ⟨⟨w, r'⟩, hw, hk⟩ := Option.map_eq_some_iff.1 h
    obtain ⟨-, rfl⟩ := matches_of_lexeme? hw
    simp only at hk
    split at hk
    · rename_i hf
      obtain ⟨rfl, rfl⟩ := Prod.mk.inj hk
      simp only [Bool.and_eq_true, beq_iff_eq] at hf
      obtain ⟨hf, rfl⟩ := hf
      exact ⟨hf, literal?_append _ _, fun hn => by simp at hn⟩
    · rename_i hf
      split at hk
      · rename_i hg
        obtain ⟨rfl, rfl⟩ := Prod.mk.inj hk
        simp only [Bool.and_eq_true, beq_iff_eq] at hg
        obtain ⟨hg, rfl⟩ := hg
        exact ⟨hg, literal?_append _ _, fun hn => by simp at hn⟩
      · rename_i hg
        obtain ⟨rfl, rfl⟩ := Prod.mk.inj hk
        simp only [Bool.and_eq_true, beq_iff_eq, not_and] at hf hg
        refine ⟨hname, hw, fun _ j hj ha => ?_⟩
        rcases hj with rfl | rfl
        · exact hf ha
        · exact hg ha
  · obtain ⟨j, hj, hk⟩ := List.exists_of_findSome?_eq_some h
    split at hk
    · rename_i ha
      obtain ⟨⟨w, r'⟩, hw, hk⟩ := Option.map_eq_some_iff.1 hk
      obtain ⟨rfl, rfl⟩ := Prod.mk.inj hk
      refine ⟨ha, hw, fun hn => ?_⟩
      simp only at hn
      subst hn
      simp at hj
    · simp at hk

/-- A name that is read where a name may stand reaches as far as it can. -/
theorem word?_of_name {accepts : Terminal → Bool} {t w r : Text} (ha : accepts .name = true)
    (hw : Terminal.name.lexeme? t = some (w, r)) :
    word? accepts t =
      some (if accepts .fragment && w == Terminal.spelling .fragment then (⟨.fragment, w⟩, r)
        else if accepts .grammar && w == Terminal.spelling .grammar then (⟨.grammar, w⟩, r)
        else (⟨.name, w⟩, r)) := by
  rw [word?, if_pos ha, hw, Option.map_some]

theorem matches_name_spelling {j : Terminal} (hj : j = .fragment ∨ j = .grammar) :
    Terminal.name.Matches j.spelling := by
  rcases hj with rfl | rfl
  · have hall : "ragment".toList.all isNameChar = true := by decide
    exact ⟨'f', "ragment".toList, rfl, by decide, List.all_eq_true.1 hall⟩
  · have hall : "rammar".toList.all isNameChar = true := by decide
    exact ⟨'g', "rammar".toList, rfl, by decide, List.all_eq_true.1 hall⟩

theorem word?_append_name {accepts : Terminal → Bool} {w r : Text} (hw : Terminal.name.Matches w)
    (ha : accepts .name = true) (hc : Token.Clear accepts ⟨.name, w⟩)
    (hr : Terminal.name.Stops r) :
    word? accepts (w ++ r) = some (⟨.name, w⟩, r) := by
  have hf : (accepts .fragment && w == Terminal.spelling .fragment) = false := by
    rw [Bool.and_eq_false_imp]
    exact fun ha => beq_eq_false_iff_ne.2 (hc rfl .fragment (Or.inl rfl) ha)
  have hg : (accepts .grammar && w == Terminal.spelling .grammar) = false := by
    rw [Bool.and_eq_false_imp]
    exact fun ha => beq_eq_false_iff_ne.2 (hc rfl .grammar (Or.inr rfl) ha)
  rw [word?_of_name ha (lexeme?_append hw hr), hf, hg]
  rfl

theorem word?_append_keyword {accepts : Terminal → Bool} {j : Terminal} {r : Text}
    (hj : j = .fragment ∨ j = .grammar) (ha : accepts j = true) (hr : j.Stops r) :
    word? accepts (j.spelling ++ r) = some (⟨j, j.spelling⟩, r) := by
  have hread : j.lexeme? (j.spelling ++ r) = some (j.spelling, r) := by
    rcases hj with rfl | rfl <;> exact literal?_append _ _
  by_cases hname : accepts .name = true
  · have hstops : Terminal.name.Stops r := by
      rcases hj with rfl | rfl <;> exact hr
    rw [word?_of_name hname (lexeme?_append (matches_name_spelling hj) hstops)]
    rcases hj with rfl | rfl
    · simp [ha]
    · simp [ha, spelling_fragment, spelling_grammar]
  · rw [word?, if_neg hname]
    rcases hj with rfl | rfl
    · simp [ha, hread]
    · have hnone : Terminal.fragment.lexeme? (Terminal.spelling .grammar ++ r) = none := by
        rw [spelling_grammar]
        exact lexeme?_eq_none rfl
      simp [ha, hread, hnone]

/-! ## Signs -/

theorem of_sign? {accepts : Terminal → Bool} {t r : Text} {k : Token}
    (h : sign? accepts t = some (k, r)) :
    k.kind.IsSign ∧ accepts k.kind = true ∧ k.kind.lexeme? t = some (k.lexeme, r) := by
  obtain ⟨j, hj, hk⟩ := List.exists_of_findSome?_eq_some h
  split at hk
  · rename_i ha
    obtain ⟨⟨w, r'⟩, hw, hk⟩ := Option.map_eq_some_iff.1 hk
    obtain ⟨rfl, rfl⟩ := Prod.mk.inj hk
    exact ⟨mem_signs.1 hj, ha, hw⟩
  · simp at hk

theorem findSome?_eq_of_takeWhile {α β : Type} [BEq α] [LawfulBEq α] {f : α → Option β} {a : α}
    {b : β} {l : List α} (ha : a ∈ l) (hb : f a = some b)
    (h : ∀ x ∈ l.takeWhile (· != a), f x = none) : l.findSome? f = some b := by
  induction l with
  | nil => simp at ha
  | cons x l ih =>
    by_cases hx : x = a
    · subst hx
      rw [List.findSome?_cons, hb]
    · rw [List.takeWhile_cons_of_pos (by simpa using hx)] at h
      rw [List.findSome?_cons, h x List.mem_cons_self]
      have ha' : a ∈ l := (List.mem_cons.1 ha).resolve_left (Ne.symm hx)
      exact ih ha' fun y hy => h y (List.mem_cons_of_mem _ hy)

/-- A sign is read if no sign that is tried before it stands there. -/
theorem sign?_eq_some {accepts : Terminal → Bool} {k : Terminal} {t w r : Text} (hk : k.IsSign)
    (ha : accepts k = true) (hread : k.lexeme? t = some (w, r))
    (hbefore : ∀ j ∈ Terminal.signs.takeWhile (· != k), j.lexeme? t = none) :
    sign? accepts t = some (⟨k, w⟩, r) := by
  refine findSome?_eq_of_takeWhile (mem_signs.2 hk) ?_ fun j hj => ?_
  · rw [if_pos ha, hread]
    rfl
  · rw [hbefore j hj]
    split <;> rfl

/-- A suffix is no sign of a label, unless an equals sign stands behind it. -/
theorem lexeme?_labelOp_of_suffix {w r : Text} (hw : Terminal.suffix.Matches w)
    (hr : r.head? ≠ some '=') :
    Terminal.labelOp.lexeme? (w ++ r) = none := by
  obtain ⟨c, hc, hw⟩ := hw
  refine lexeme?_eq_none_of_forall fun u r' hu ht => ?_
  rcases hu with rfl | rfl
  · rcases hw with rfl | rfl
    · obtain ⟨-, rfl⟩ := List.cons.inj ht
      exact hr rfl
    · simp at ht
  · obtain rfl : c = '=' := by rcases hw with rfl | rfl <;> simp at ht <;> exact ht.1
    simp at hc

/-- Of the signs only two pairs begin with the same character, and in each the one that is tried
first is ruled out by what may not stand behind the other. -/
theorem sign?_append {accepts : Terminal → Bool} {k : Terminal} {w r : Text} (hk : k.IsSign)
    (hw : k.Matches w) (ha : accepts k = true) (hr : k.Stops r) :
    sign? accepts (w ++ r) = some (⟨k, w⟩, r) := by
  refine sign?_eq_some hk ha (lexeme?_append hw hr) ?_
  cases k
  case name => exact absurd rfl hk.1
  case fragment => exact absurd rfl hk.2.1
  case grammar => exact absurd rfl hk.2.2
  case suffix =>
    intro j hj
    obtain rfl : j = .labelOp := by simpa [Terminal.signs] using hj
    exact lexeme?_labelOp_of_suffix hw fun h => absurd (hr '=' h) (by decide)
  case dot =>
    obtain rfl := hw
    intro j hj
    have hj : j = .labelOp ∨ j = .suffix ∨ j = .dots := by simpa [Terminal.signs] using hj
    rcases hj with rfl | rfl | rfl
    · exact lexeme?_eq_none rfl
    · exact lexeme?_eq_none rfl
    · refine lexeme?_eq_none_of_forall fun u r' hu ht => ?_
      obtain rfl := hu
      obtain ⟨-, rfl⟩ := List.cons.inj ht
      exact absurd (hr '.' rfl) (by decide)
  case labelOp => simp [Terminal.signs]
  all_goals
    obtain ⟨c, v, rfl, hc⟩ := hw.exists_cons
    simp only [Terminal.opens, beq_iff_eq] at hc
    subst hc
    rw [List.cons_append]
    refine fun j hj => lexeme?_eq_none ?_
    revert j
    decide

/-! ## Pieces -/

theorem comment?_eq_none {c : Char} {t : Text} (h : c ≠ '/') : comment? (c :: t) = none := by
  rw [comment?.eq_3 (c :: t) (fun _ ht => h (List.cons.inj ht).1)
    (fun _ ht => h (List.cons.inj ht).1)]

/-- An admitted lexeme is read, if the text behind it does not glue to it. -/
theorem piece?_append {accepts : Terminal → Bool} {k : Token} {r : Text} (hk : k.IsLexeme)
    (ha : accepts k.kind = true) (hc : k.Clear accepts) (hr : k.kind.Stops r) :
    piece? accepts (k.lexeme ++ r) = some (.token k, r) := by
  have hread : (word? accepts (k.lexeme ++ r)).or (sign? accepts (k.lexeme ++ r)) =
      some (k, r) := by
    obtain ⟨kind, w⟩ := k
    by_cases hsign : kind.IsSign
    · obtain ⟨c, v, rfl, ho⟩ := Terminal.Matches.exists_cons hk
      have hnone : word? accepts (c :: v ++ r) = none :=
        word?_eq_none (not_isNameStart (not_isNameChar_of_opens hsign ho))
      rw [hnone, Option.none_or]
      exact sign?_append hsign hk ha hr
    · cases kind <;> try exact absurd (mem_signs.1 (by decide)) hsign
      · rw [word?_append_name hk ha hc hr, Option.some_or]
      · obtain rfl : w = Terminal.spelling .fragment := hk
        rw [word?_append_keyword (Or.inl rfl) ha hr, Option.some_or]
      · obtain rfl : w = Terminal.spelling .grammar := hk
        rw [word?_append_keyword (Or.inr rfl) ha hr, Option.some_or]
  obtain ⟨c, v, hw, ho⟩ := Terminal.Matches.exists_cons hk
  rw [hw] at hread ⊢
  rw [List.cons_append] at hread ⊢
  simp [piece?, isLayout_of_opens ho, comment?_eq_none (ne_slash_of_opens ho), hread]

/-- A stretch of layout is read as far as it reaches. -/
theorem piece?_layout_append {accepts : Terminal → Bool} {w r : Text} (hne : w ≠ [])
    (hw : ∀ c ∈ w, isLayout c = true) (hr : ∀ c ∈ r.head?, isLayout c = false) :
    piece? accepts (w ++ r) = some (.layout w, r) := by
  have htake := Text.takeWhile_append_of_head hw hr
  have hdrop := Text.dropWhile_append_of_head hw hr
  cases w with
  | nil => exact absurd rfl hne
  | cons c v =>
    have hc : isLayout c = true := hw c List.mem_cons_self
    rw [List.cons_append] at htake hdrop ⊢
    simp only [piece?, if_pos hc, htake, hdrop]

theorem blockComment?_eq_append {t w r : Text} (h : blockComment? t = some (w, r)) :
    t = w ++ r := by
  fun_induction blockComment? t generalizing w with
  | case1 t =>
    obtain ⟨rfl, rfl⟩ := Prod.mk.inj (Option.some.inj h)
    rfl
  | case2 c t _ ih =>
    obtain ⟨⟨w', r'⟩, hw, hwr⟩ := Option.map_eq_some_iff.1 h
    obtain ⟨rfl, rfl⟩ := Prod.mk.inj hwr
    rw [ih hw, List.cons_append]
  | case3 => simp at h

theorem comment?_eq_append {t w r : Text} (h : comment? t = some (w, r)) :
    t = w ++ r ∧ w ≠ [] := by
  unfold comment? at h
  split at h
  · obtain ⟨rfl, rfl⟩ := Prod.mk.inj (Option.some.inj h)
    simp [List.takeWhile_append_dropWhile]
  · obtain ⟨⟨w', r'⟩, hw, hwr⟩ := Option.map_eq_some_iff.1 h
    obtain ⟨rfl, rfl⟩ := Prod.mk.inj hwr
    simp [blockComment?_eq_append hw]
  · simp at h

/-- What a piece can be, and where it comes from: layout and comments do not depend on what is
admitted. -/
theorem piece?_cases {accepts : Terminal → Bool} {t r : Text} {p : Piece}
    (h : piece? accepts t = some (p, r)) :
    (∃ w, p = .layout w ∧ w ≠ [] ∧ t = w ++ r ∧ ∀ a, piece? a t = some (p, r)) ∨
    (∃ w, p = .comment w ∧ w ≠ [] ∧ t = w ++ r ∧ ∀ a, piece? a t = some (p, r)) ∨
    (∃ k, p = .token k ∧ k.IsLexeme ∧ t = k.lexeme ++ r ∧ accepts k.kind = true ∧
      k.Clear accepts ∧ k.kind.lexeme? t = some (k.lexeme, r) ∧ comment? t = none) := by
  cases t with
  | nil => simp [piece?] at h
  | cons c t =>
    by_cases hc : isLayout c = true
    · have hall : ∀ a, piece? a (c :: t) =
          some (.layout ((c :: t).takeWhile isLayout), (c :: t).dropWhile isLayout) := by
        intro a
        simp only [piece?, if_pos hc]
      obtain ⟨rfl, rfl⟩ := Prod.mk.inj (Option.some.inj ((hall accepts).symm.trans h))
      refine Or.inl ⟨_, rfl, ?_, List.takeWhile_append_dropWhile.symm, hall⟩
      simp [hc]
    · cases hcom : comment? (c :: t) with
      | some wr =>
        have hall : ∀ a, piece? a (c :: t) = some (.comment wr.1, wr.2) := by
          intro a
          simp only [piece?, if_neg hc, hcom]
        obtain ⟨rfl, rfl⟩ := Prod.mk.inj (Option.some.inj ((hall accepts).symm.trans h))
        obtain ⟨ht, hw⟩ := comment?_eq_append hcom
        exact Or.inr (Or.inl ⟨_, rfl, hw, ht, hall⟩)
      | none =>
        simp only [piece?, if_neg hc, hcom] at h
        obtain ⟨⟨k, r'⟩, hk, hkr⟩ := Option.map_eq_some_iff.1 h
        obtain ⟨rfl, rfl⟩ := Prod.mk.inj hkr
        refine Or.inr (Or.inr ⟨k, rfl, ?_⟩)
        rcases Option.or_eq_some_iff.1 hk with hword | ⟨-, hsign⟩
        · obtain ⟨ha, hl, hclear⟩ := of_word? hword
          obtain ⟨hm, ht⟩ := matches_of_lexeme? hl
          exact ⟨hm, ht, ha, hclear, hl, rfl⟩
        · obtain ⟨hs, ha, hl⟩ := of_sign? hsign
          obtain ⟨hm, ht⟩ := matches_of_lexeme? hl
          exact ⟨hm, ht, ha, fun hn => absurd hn hs.1, hl, rfl⟩

/-- A token that is read is admitted, and it is the lexeme of its kind. -/
theorem of_piece?_token {accepts : Terminal → Bool} {t r : Text} {k : Token}
    (h : piece? accepts t = some (.token k, r)) :
    k.IsLexeme ∧ t = k.lexeme ++ r ∧ accepts k.kind = true ∧ k.Clear accepts ∧
      k.kind.lexeme? t = some (k.lexeme, r) ∧ comment? t = none := by
  rcases piece?_cases h with ⟨w, hw, -⟩ | ⟨w, hw, -⟩ | ⟨k', hk, hread⟩
  · cases hw
  · cases hw
  · obtain rfl := Piece.token.inj hk
    exact hread

theorem Token.IsLexeme.ne_nil {k : Token} (h : k.IsLexeme) : k.lexeme ≠ [] := by
  obtain ⟨c, v, hw, -⟩ := Terminal.Matches.exists_cons h
  rw [hw]
  exact List.cons_ne_nil c v

/-- Reading a piece loses nothing, and takes something away. -/
theorem piece?_eq_append {accepts : Terminal → Bool} {t r : Text} {p : Piece}
    (h : piece? accepts t = some (p, r)) : t = p.text ++ r ∧ p.text ≠ [] := by
  rcases piece?_cases h with ⟨w, rfl, hw, ht, -⟩ | ⟨w, rfl, hw, ht, -⟩ | ⟨k, rfl, hk, ht, -⟩
  · exact ⟨ht, hw⟩
  · exact ⟨ht, hw⟩
  · exact ⟨ht, hk.ne_nil⟩

end Concordance.Notation
