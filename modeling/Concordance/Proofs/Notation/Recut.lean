import Concordance.Proofs.Notation.Statements

/-!
# Two scans of one text

The scan that follows the order of tokens admits few terminals at each place, and the scan for
comments admits all of them everywhere, so the two need not cut a text alike.  They cut it
differently in two places only: a keyword in front of a name is drawn into the name, and two dots
become one token.  Both times the orderly scan reads two tokens with nothing between them, and
behind the second one the scans are at the same character again.  What carries the proof is that
nothing which glues to another token, a keyword and a dot apart, is left standing in front of what
it glues to.

* `Recut` says that two lists of pieces differ in no other way.
* `exists_recut`: what the orderly scan cuts is cut by the other scan too, and so.
* `Recut.commentsOf_eq`: the comments are the same, and at the same offsets.
-/

namespace Concordance.Notation

variable {t r : Text} {p p' : Place} {k j : Token} {ps qs : List Piece} {accepts : Terminal → Bool}

/-! ## Comments and their offsets -/

/-- The comments among located pieces, with their offsets. -/
def commentsOf (ps : List (Nat × Piece)) : List (Nat × Text) :=
  ps.filterMap fun x => match x.2 with
    | .comment w => some (x.1, w)
    | _ => none

/-- The same pieces again, but each token may be of another kind, and two tokens may have become
one. -/
inductive Recut : List Piece → List Piece → Prop where
  | nil : Recut [] []
  | skip {p : Piece} {ps qs : List Piece} : p.token? = none → Recut ps qs →
      Recut (p :: ps) (p :: qs)
  | one {k k' : Token} {ps qs : List Piece} :
      k'.lexeme = k.lexeme → Recut ps qs → Recut (.token k :: ps) (.token k' :: qs)
  | two {k j k' : Token} {ps qs : List Piece} :
      k'.lexeme = k.lexeme ++ j.lexeme → Recut ps qs →
      Recut (.token k :: .token j :: ps) (.token k' :: qs)

theorem commentsOf_token (o : Nat) (k : Token) (ps : List (Nat × Piece)) :
    commentsOf ((o, .token k) :: ps) = commentsOf ps := rfl

theorem Recut.commentsOf_eq (h : Recut ps qs) (o : Nat) :
    commentsOf (locate o qs) = commentsOf (locate o ps) := by
  induction h generalizing o with
  | nil => rfl
  | @skip p ps qs _ _ ih =>
    rw [locate, locate, commentsOf, commentsOf, List.filterMap_cons, List.filterMap_cons]
    rw [← commentsOf, ← commentsOf, ih]
  | one hlexeme _ ih =>
    rw [locate, locate, commentsOf_token, commentsOf_token, Piece.text, Piece.text, hlexeme, ih]
  | two hlexeme _ ih =>
    rw [locate, locate, locate, commentsOf_token, commentsOf_token, commentsOf_token, Piece.text,
      Piece.text, Piece.text, hlexeme, List.length_append, ← Nat.add_assoc, ih]

/-! ## What stands behind a token -/

theorem word?_or_sign?_of_piece? (h : piece? accepts t = some (.token k, r)) :
    word? accepts t = some (k, r) ∨ sign? accepts t = some (k, r) := by
  cases t with
  | nil => cases h
  | cons c t =>
    simp only [piece?] at h
    split at h
    · cases h
    split at h
    · cases h
    obtain ⟨⟨k', r'⟩, hread, hkr⟩ := Option.map_eq_some_iff.1 h
    obtain ⟨hk, rfl⟩ := Prod.mk.inj hkr
    obtain rfl := Piece.token.inj hk
    rcases Option.or_eq_some_iff.1 hread with hword | ⟨-, hsign⟩
    · exact Or.inl hword
    · exact Or.inr hsign

theorem stops_of_lexeme?_name {w : Text}
    (h : Terminal.name.lexeme? t = some (w, r)) : Terminal.name.Stops r := by
  cases t with
  | nil => cases h
  | cons c t =>
    simp only [Terminal.lexeme?] at h
    split at h
    · obtain ⟨-, rfl⟩ := Prod.mk.inj (Option.some.inj h)
      intro d hd
      have hstop := List.head?_dropWhile_not isNameChar t
      rw [Option.mem_def.1 hd] at hstop
      exact hstop
    · cases h

/-- Where a name may stand, a word is read as far as it reaches. -/
theorem stops_of_word? (h : word? accepts t = some (k, r)) (hname : accepts .name = true) :
    Terminal.name.Stops r := by
  rw [word?, if_pos hname] at h
  obtain ⟨⟨w, r'⟩, hread, hkr⟩ := Option.map_eq_some_iff.1 h
  have hrest : r' = r := by
    simp only at hkr
    split at hkr
    · exact (Prod.mk.inj hkr).2
    · split at hkr
      · exact (Prod.mk.inj hkr).2
      · exact (Prod.mk.inj hkr).2
  exact hrest ▸ stops_of_lexeme?_name hread

/-- Only two signs draw in what stands behind them. -/
theorem Terminal.IsSign.stops {k : Terminal} (hk : k.IsSign) (hsuffix : k ≠ .suffix)
    (hdot : k ≠ .dot) : k.Stops r := by
  intro c _
  obtain ⟨hname, hfragment, hgrammar⟩ := hk
  cases k <;> first | rfl | contradiction

theorem Terminal.word_cases {k : Terminal} (hk : ¬ k.IsSign) :
    k = .name ∨ k = .fragment ∨ k = .grammar := by
  cases k <;> simp [Terminal.IsSign] at hk ⊢

/-- Words draw in what a name does. -/
theorem Terminal.stops_of_name {k : Terminal} (hk : ¬ k.IsSign)
    (hr : Terminal.name.Stops r) : k.Stops r := by
  rcases word_cases hk with rfl | rfl | rfl <;> exact hr

/-- What stands behind a token is not drawn into it, unless it is a suffix or a dot, or a keyword
where no name may stand. -/
theorem stops_of_piece? (h : piece? accepts t = some (.token k, r)) (hsuffix : k.kind ≠ .suffix)
    (hdot : k.kind ≠ .dot) (hname : accepts .name = true ∨ k.kind.IsSign) : k.kind.Stops r := by
  by_cases hsign : k.kind.IsSign
  · exact hsign.stops hsuffix hdot
  · have hword : word? accepts t = some (k, r) :=
      (word?_or_sign?_of_piece? h).resolve_right fun h => hsign (of_sign? h).1
    exact Terminal.stops_of_name hsign (stops_of_word? hword (hname.resolve_right hsign))

/-! ## What the order of tokens admits there -/

theorem next?_suffix (h : p.next? .suffix = some p') : p'.phase = .finished := by
  obtain ⟨phase, depth⟩ := p
  cases phase <;> simp [Place.next?, Place.part?, Place.atom?, Place.close?, Place.afterAtom?,
    Place.afterCommand?] at h <;> rw [← h]

theorem next?_dot (h : p.next? .dot = some p') : p'.phase = .element := by
  obtain ⟨phase, depth⟩ := p
  cases phase <;> simp [Place.next?, Place.part?, Place.atom?, Place.close?, Place.afterAtom?,
    Place.afterCommand?] at h <;> rw [← h]

theorem next?_grammar (h : p.next? .grammar = some p') : p' = ⟨.headerWord, 0⟩ := by
  obtain ⟨phase, depth⟩ := p
  cases phase <;> simp [Place.next?, Place.part?, Place.atom?, Place.close?, Place.afterAtom?,
    Place.afterCommand?] at h <;> rw [← h]

/-- The word for a fragment stands only where a name may stand, too. -/
theorem next?_fragment (h : p.next? .fragment = some p') : orderly.admits p .name = true := by
  obtain ⟨phase, depth⟩ := p
  cases phase <;> simp [Place.next?, Place.part?, Place.atom?, Place.close?, Place.afterAtom?,
    Place.afterCommand?] at h
  rfl

theorem eq_dot_of_opens {k : Terminal} (h : k.opens '.' = true) : k = .dot ∨ k = .dots := by
  cases k <;> first | exact Or.inl rfl | exact Or.inr rfl | exact absurd h (by decide)

theorem eq_labelOp_of_opens {k : Terminal} (h : k.opens '=' = true) : k = .labelOp := by
  cases k <;> first | rfl | exact absurd h (by decide)

/-- A text that begins with neither layout nor a comment is cut at the end of a token that begins
so. -/
theorem Scanner.Cuts.exists_token {σ : Type} {m : Scanner σ} {s : σ} {c : Char}
    (h : m.Cuts s (c :: t) ps) (hlayout : isLayout c = false) (hslash : c ≠ '/') :
    ∃ k r qs s', ps = .token k :: qs ∧ piece? (m.admits s) (c :: t) = some (.token k, r) ∧
      m.next? s k.kind = some s' ∧ m.Cuts s' r qs ∧ k.kind.opens c = true := by
  have htoken : ∀ {p r}, piece? (m.admits s) (c :: t) = some (p, r) → ∃ k, p = .token k := by
    intro p r hp
    simp only [piece?, hlayout, comment?_eq_none hslash, Bool.false_eq_true, if_false] at hp
    obtain ⟨⟨k, r'⟩, -, hkr⟩ := Option.map_eq_some_iff.1 hp
    exact ⟨k, (Prod.mk.inj hkr).1.symm⟩
  cases h with
  | skip hk hp _ =>
    obtain ⟨k, rfl⟩ := htoken hp
    cases hk
  | @token _ s' _ r k qs hp hs hrest =>
    refine ⟨k, r, qs, s', rfl, hp, hs, hrest, ?_⟩
    obtain ⟨hk, ht, -⟩ := of_piece?_token hp
    obtain ⟨d, v, hv, hopens⟩ := Terminal.Matches.exists_cons hk
    rw [hv] at ht
    exact (List.cons.inj ht).1 ▸ hopens

/-! ## The scan for comments -/

/-- A lexeme that nothing behind it is drawn into is read by the scan for comments as well. -/
theorem exists_free_piece? (hk : k.IsLexeme) (hstops : k.kind.Stops r) :
    ∃ k' : Token, k'.lexeme = k.lexeme ∧
      piece? (free.admits ()) (k.lexeme ++ r) = some (.token k', r) := by
  obtain ⟨k', hread⟩ := piece?_all_append hk hstops
  exact ⟨k', (List.append_cancel_right (piece?_eq_append hread).1).symm, hread⟩

/-- A suffix is read alike by both scans, unless an equals sign stands behind it. -/
theorem free_piece?_suffix (h : piece? accepts t = some (.token k, r)) (hkind : k.kind = .suffix)
    (hr : r.head? ≠ some '=') : piece? (free.admits ()) t = some (.token k, r) := by
  obtain ⟨hk, rfl, -, -, hread, hcomment⟩ := of_piece?_token h
  obtain ⟨kind, w⟩ := k
  obtain rfl : kind = .suffix := hkind
  have hkind : Terminal.suffix.IsSign := mem_signs.1 (by decide)
  have hsign : sign? (free.admits ()) (w ++ r) = some (⟨.suffix, w⟩, r) := by
    refine sign?_eq_some hkind rfl hread fun j hj => ?_
    obtain rfl : j = .labelOp := by simpa [Terminal.signs] using hj
    exact lexeme?_labelOp_of_suffix hk hr
  obtain ⟨c, v, rfl, hopens⟩ := Terminal.Matches.exists_cons hk
  have hword : word? (free.admits ()) (c :: (v ++ r)) = none :=
    word?_eq_none (not_isNameStart (not_isNameChar_of_opens hkind hopens))
  simp only [List.cons_append] at hsign hcomment ⊢
  simp [piece?, isLayout_of_opens hopens, hcomment, hword, hsign]

/-- The first piece behind a token is a token too, and the scan for comments reads both as one. -/
def Joins (k : Token) (r : Text) (ps : List Piece) : Prop :=
  ∃ j k' r' ps' p', ps = .token j :: ps' ∧ k'.lexeme = k.lexeme ++ j.lexeme ∧
    piece? (free.admits ()) (k.lexeme ++ r) = some (.token k', r') ∧ orderly.Cuts p' r' ps'

theorem joins_of_lexeme {k' : Token} {q : Place} (hlexeme : k'.IsLexeme)
    (heq : k'.lexeme = k.lexeme ++ j.lexeme) {r' : Text} (hr : r = j.lexeme ++ r')
    (hstops : k'.kind.Stops r') (hrest : orderly.Cuts q r' qs) : Joins k r (.token j :: qs) := by
  obtain ⟨k'', hk'', hread⟩ := exists_free_piece? hlexeme hstops
  refine ⟨j, k'', r', qs, q, rfl, hk''.trans heq, ?_, hrest⟩
  rwa [hr, ← List.append_assoc, ← heq]

/-- Behind the word that opens a header stands a name; without a gap the word is drawn into it. -/
theorem joins_grammar (hk : k.IsLexeme) (hkind : k.kind = .grammar) (hr : ¬ k.kind.Stops r)
    (h : orderly.Cuts ⟨.headerWord, 0⟩ r ps) : Joins k r ps := by
  simp only [hkind, Terminal.Stops, Classical.not_forall, Bool.not_eq_false] at hr
  obtain ⟨c, hc, hname⟩ := hr
  obtain ⟨r, rfl⟩ := List.head?_eq_some_iff.1 hc
  have hlayout : isLayout c = false := Bool.eq_false_iff.2 fun hc => by
    simp only [isLayout, Bool.or_eq_true, beq_iff_eq] at hc
    rcases hc with (((rfl | rfl) | rfl) | rfl) | rfl <;> exact absurd hname (by decide)
  have hslash : c ≠ '/' := by
    rintro rfl
    exact absurd hname (by decide)
  obtain ⟨j, r', qs, q, rfl, hp, hs, hrest, -⟩ := h.exists_token hlayout hslash
  obtain ⟨hjkind, -⟩ := next?_headerWord hs
  obtain ⟨jkind, w⟩ := j
  obtain rfl : jkind = .name := hjkind
  obtain ⟨hj, ht, -, -, hread, -⟩ := of_piece?_token hp
  obtain ⟨d, v, hw, hd, hv⟩ := hj
  obtain rfl : w = d :: v := hw
  have hspelling : k.lexeme = 'g' :: "rammar".toList := by
    obtain ⟨kind, w⟩ := k
    obtain rfl : kind = .grammar := hkind
    exact (hk : w = _)
  have hletters : ∀ e ∈ "rammar".toList ++ d :: v, isNameChar e = true := by
    have hall : "rammar".toList.all isNameChar = true := by decide
    intro e he
    rcases List.mem_append.1 he with he | he
    · exact List.all_eq_true.1 hall e he
    rcases List.mem_cons.1 he with rfl | he
    · exact isNameChar_of_isNameStart hd
    · exact hv e he
  have hjoined : Token.IsLexeme ⟨.name, k.lexeme ++ d :: v⟩ :=
    ⟨'g', "rammar".toList ++ d :: v, by rw [hspelling]; rfl, by decide, hletters⟩
  exact joins_of_lexeme hjoined rfl ht (stops_of_lexeme?_name hread) hrest

/-- Two dots that are read one by one become one token. -/
theorem joins_dot (hk : k.IsLexeme) (hkind : k.kind = .dot) (hr : ¬ k.kind.Stops r)
    (hp' : p'.phase = .element) (h : orderly.Cuts p' r ps) : Joins k r ps := by
  simp only [hkind, Terminal.Stops, Classical.not_forall, Bool.not_eq_false] at hr
  obtain ⟨c, hc, hdot⟩ := hr
  obtain rfl : c = '.' := beq_iff_eq.1 hdot
  obtain ⟨r, rfl⟩ := List.head?_eq_some_iff.1 hc
  obtain ⟨⟨jkind, w⟩, r', qs, q, rfl, hp, hs, hrest, hopens⟩ :=
    h.exists_token (by decide) (by decide)
  obtain ⟨phase, depth⟩ := p'
  obtain rfl : phase = .element := hp'
  obtain rfl : jkind = .dot := (eq_dot_of_opens hopens).resolve_right fun h => by
    obtain rfl : jkind = .dots := h
    cases hs
  obtain ⟨hj, ht, -⟩ := of_piece?_token hp
  have hjoined : Token.IsLexeme ⟨.dots, k.lexeme ++ w⟩ := by
    obtain ⟨kind, v⟩ := k
    obtain rfl : kind = .dot := hkind
    obtain rfl : v = ['.'] := hk
    obtain rfl : w = ['.'] := hj
    rfl
  exact joins_of_lexeme hjoined rfl ht (fun _ _ => rfl) hrest

/-- Behind a suffix no sign of a label may stand. -/
theorem head?_ne_of_finished (hp' : p'.phase = .finished) (h : orderly.Cuts p' r ps) :
    r.head? ≠ some '=' := by
  intro hr
  obtain ⟨r, rfl⟩ := List.head?_eq_some_iff.1 hr
  obtain ⟨⟨kind, w⟩, r', qs, q, rfl, hp, hs, hrest, hopens⟩ :=
    h.exists_token (by decide) (by decide)
  obtain ⟨phase, depth⟩ := p'
  obtain rfl : phase = .finished := hp'
  obtain rfl : kind = .labelOp := eq_labelOp_of_opens hopens
  cases hs

/-- Where the orderly scan reads a token, the scan for comments reads as much, or both it and the
next one. -/
theorem read_or_joins (hp : piece? (orderly.admits p) t = some (.token k, r))
    (hs : p.next? k.kind = some p') (hrest : orderly.Cuts p' r ps) :
    (∃ k' : Token, k'.lexeme = k.lexeme ∧ piece? (free.admits ()) t = some (.token k', r)) ∨
      Joins k r ps := by
  obtain ⟨hk, ht, haccepts, -⟩ := of_piece?_token hp
  by_cases hsuffix : k.kind = .suffix
  · rw [hsuffix] at hs
    exact Or.inl ⟨k, rfl, free_piece?_suffix hp hsuffix
      (head?_ne_of_finished (next?_suffix hs) hrest)⟩
  by_cases hstops : k.kind.Stops r
  · rw [ht]
    exact Or.inl (exists_free_piece? hk hstops)
  refine Or.inr ?_
  by_cases hdot : k.kind = .dot
  · exact joins_dot hk hdot hstops (next?_dot (hdot ▸ hs)) hrest
  -- A word that does not stop is read where no name may stand, and that is the word that opens a
  -- header.
  have hname : ¬ (orderly.admits p .name = true ∨ k.kind.IsSign) := fun hname =>
    hstops (stops_of_piece? hp hsuffix hdot hname)
  rw [not_or] at hname
  rcases Terminal.word_cases hname.2 with hkind | hkind | hkind
  · exact absurd (hkind ▸ haccepts) hname.1
  · exact absurd (next?_fragment (hkind ▸ hs)) hname.1
  · exact joins_grammar hk hkind hstops (next?_grammar (hkind ▸ hs) ▸ hrest)

/-- What the orderly scan cuts, the scan for comments cuts too; and the pieces are the same, but
for tokens. -/
theorem exists_recut (h : orderly.Cuts p t ps) : ∃ qs, free.Cuts () t qs ∧ Recut ps qs := by
  -- Two tokens at once may be taken from the front, so the induction is on the number of pieces.
  induction hlength : ps.length using Nat.strongRecOn generalizing p t ps with
  | ind n ih =>
    cases h with
    | done => exact ⟨[], .done rfl, .nil⟩
    | @skip _ _ r q ps hq hp hrest =>
      obtain ⟨qs, hqs, hrecut⟩ :=
        ih ps.length (by rw [← hlength, List.length_cons]; omega) hrest rfl
      have hfree : piece? (free.admits ()) t = some (q, r) := by
        rcases piece?_cases hp with ⟨w, rfl, -, -, hall⟩ | ⟨w, rfl, -, -, hall⟩ | ⟨k, rfl, -⟩
        · exact hall _
        · exact hall _
        · cases hq
      exact ⟨q :: qs, .skip hq hfree hqs, .skip hq hrecut⟩
    | @token _ p' _ r k ps hp hs hrest =>
      rcases read_or_joins hp hs hrest with ⟨k', hk', hfree⟩ |
        ⟨j, k', r', ps', q, rfl, hk', hfree, hrest'⟩
      · obtain ⟨qs, hqs, hrecut⟩ :=
          ih ps.length (by rw [← hlength, List.length_cons]; omega) hrest rfl
        exact ⟨.token k' :: qs, .token hfree rfl hqs, .one hk' hrecut⟩
      · obtain ⟨qs, hqs, hrecut⟩ :=
          ih ps'.length (by rw [← hlength, List.length_cons, List.length_cons]; omega) hrest' rfl
        have ht : t = k.lexeme ++ r := (piece?_eq_append hp).1
        rw [← ht] at hfree
        exact ⟨.token k' :: qs, .token hfree rfl hqs, .two hk' hrecut⟩

example :
    (orderly.pieces ⟨.top, 0⟩ "lexer grammarL;".toList).map
      (fun ps => (tokensOf ps).map Token.lexeme) =
        .ok ["lexer".toList, "grammar".toList, ['L'], [';']] ∧
      (free.pieces () "lexer grammarL;".toList).map (fun ps => (tokensOf ps).map Token.lexeme) =
        .ok ["lexer".toList, "grammarL".toList, [';']] :=
  ⟨rfl, rfl⟩

/-- **The two scans agree about comments.**  A text that the orderly scan cuts is cut by the scan
for comments too, and the comments that both find are the same texts at the same offsets.  So a
text that cannot be read departs from the order of tokens, at the offset that is reported. -/
theorem scans_agree (t : Text) :
    (∀ ps, orderly.pieces ⟨.top, 0⟩ t = .ok ps →
      ∃ qs, free.pieces () t = .ok qs ∧ commentsOf (locate 0 qs) = commentsOf (locate 0 ps)) ∧
    ∀ source f, read t source = .error f ↔
      ∃ o, orderly.pieces ⟨.top, 0⟩ t = .error o ∧ f = .ofOffset source t o := by
  have hagree : ∀ ps, orderly.pieces ⟨.top, 0⟩ t = .ok ps →
      ∃ qs, free.pieces () t = .ok qs ∧ commentsOf (locate 0 qs) = commentsOf (locate 0 ps) := by
    intro ps hps
    obtain ⟨qs, hqs, hrecut⟩ := exists_recut (pieces_eq_ok.1 hps)
    exact ⟨qs, pieces_eq_ok.2 hqs, hrecut.commentsOf_eq 0⟩
  refine ⟨hagree, fun source f => ?_⟩
  cases horderly : orderly.pieces ⟨.top, 0⟩ t with
  | error o => simp [read, horderly, eq_comm]
  | ok ps =>
    obtain ⟨qs, hqs, -⟩ := hagree ps horderly
    simp [read, horderly, hqs]

end Concordance.Notation
