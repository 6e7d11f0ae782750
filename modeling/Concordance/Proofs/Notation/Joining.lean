import Concordance.Proofs.Notation.Cuts
import Concordance.Proofs.Text.Replacement
import Mathlib.Data.List.TakeWhile
import Mathlib.Tactic.SplitIfs

/-!
# Texts joined by a line feed

A scan that cuts each of two texts cuts the two joined by a line feed.  No token and no comment
that ends within the first text reaches over the line feed; layout does, and becomes one piece with
the layout behind it.  Conversely a scan of the joined texts goes over the second one from where
the first one ended.

* `lexeme?_append_feed`: where some token can be read, each terminal reads what it reads without
  the second text.
* `piece?_append_feed`: a token or a comment is cut off the joined texts as off the first one.
* `seamed` says what the pieces of the joined texts are, and `Scanner.Cuts.seamed` that they are
  those of a scan.
* `Scanner.Cuts.of_append_feed`: if the first text and the joined texts are cut, so is the second
  text.
-/

namespace Concordance.Notation

open Text

variable {t u w r : Text} {k j : Terminal} {accepts : Terminal → Bool}

/-! ## One piece before a line feed -/

/-- What is cut off a text and the rest of it, with a line feed and another text behind the
rest. -/
def behindFeed {α : Type} (u : Text) (x : α × Text) : α × Text := (x.1, x.2 ++ '\n' :: u)

theorem span_append_feed {p : Char → Bool} (hp : p '\n' = false) (t u : Text) :
    (t ++ '\n' :: u).takeWhile p = t.takeWhile p ∧
      (t ++ '\n' :: u).dropWhile p = t.dropWhile p ++ '\n' :: u := by
  induction t with
  | nil => simp [hp]
  | cons c t ih =>
    by_cases hc : p c = true
    · simp [hc, ih.1, ih.2]
    · simp [hc]

theorem literal?_append_feed (h : '\n' ∉ w) (t u : Text) :
    literal? w (t ++ '\n' :: u) = (literal? w t).map (behindFeed u) := by
  by_cases hp : w <+: t
  · obtain ⟨r, rfl⟩ := hp
    rw [List.append_assoc, literal?_append, literal?_append]
    rfl
  · have hp' : ¬ w <+: t ++ '\n' :: u := fun h' => hp (prefix_of_prefix_append_feed h h')
    rw [literal?, if_neg fun h => hp' (List.isPrefixOf_iff_prefix.1 h), literal?,
      if_neg fun h => hp (List.isPrefixOf_iff_prefix.1 h)]
    rfl

/-- A terminal that no other one begins like, and that is read up to a closing sign. -/
def Terminal.IsDelimited (k : Terminal) : Prop :=
  k = .literal ∨ k = .charset ∨ k = .action ∨ k = .options

theorem eq_of_opens {c : Char} (hk : k.IsDelimited) (ho : k.opens c = true)
    (hj : j.opens c = true) : j = k := by
  rcases hk with rfl | rfl | rfl | rfl <;>
    rw [Terminal.opens, beq_iff_eq] at ho <;> subst ho <;> cases j <;>
    simp_all [Terminal.opens] <;>
    exact absurd hj (by decide)

/-- A delimited token ends with its closing sign, whatever stands behind it.  Where none is found,
none begins, and what stands behind the line feed cannot close it. -/
theorem lexeme?_delimited_append_feed (hk : k.IsDelimited)
    (hj : (j.lexeme? t).isSome = true) (u : Text) :
    k.lexeme? (t ++ '\n' :: u) = (k.lexeme? t).map (behindFeed u) := by
  cases hread : k.lexeme? t with
  | some wr =>
    obtain ⟨w, r⟩ := wr
    obtain ⟨hw, rfl⟩ := matches_of_lexeme? hread
    have hstops : k.Stops (r ++ '\n' :: u) := fun c _ => by
      rcases hk with rfl | rfl | rfl | rfl <;> rfl
    rw [List.append_assoc, lexeme?_append hw hstops]
    rfl
  | none =>
    obtain ⟨⟨w, r⟩, hjread⟩ := Option.isSome_iff_exists.1 hj
    obtain ⟨hw, rfl⟩ := matches_of_lexeme? hjread
    obtain ⟨c, v, rfl, hopens⟩ := hw.exists_cons
    refine lexeme?_eq_none (Bool.eq_false_iff.2 fun ho => ?_)
    rw [eq_of_opens hk ho hopens, hread] at hjread
    cases hjread

theorem lexeme?_suffix_append_feed (c : Char) (t u : Text) :
    Terminal.suffix.lexeme? (c :: t ++ '\n' :: u) =
      (Terminal.suffix.lexeme? (c :: t)).map (behindFeed u) := by
  by_cases hc : c = '?' ∨ c = '*' ∨ c = '+'
  · cases t with
    | nil => simp [Terminal.lexeme?, hc, behindFeed]
    | cons d t =>
      by_cases hd : d = '?'
      · simp [Terminal.lexeme?, hc, hd, behindFeed]
      · simp [Terminal.lexeme?, hc, hd, behindFeed]
  · simp [Terminal.lexeme?, hc]

theorem lexeme?_labelOp_append_feed (c : Char) (t u : Text) :
    Terminal.labelOp.lexeme? (c :: t ++ '\n' :: u) =
      (Terminal.labelOp.lexeme? (c :: t)).map (behindFeed u) := by
  by_cases hplus : c = '+'
  · subst hplus
    cases t with
    | nil => simp [Terminal.lexeme?]
    | cons d t =>
      by_cases hd : d = '='
      · simp [Terminal.lexeme?, hd, behindFeed]
      · simp [Terminal.lexeme?, hd]
  · by_cases heq : c = '='
    · simp [Terminal.lexeme?, heq, behindFeed]
    · have hopens : Terminal.labelOp.opens c = false := by simp [Terminal.opens, hplus, heq]
      rw [List.cons_append, lexeme?_eq_none hopens, lexeme?_eq_none hopens]
      rfl

theorem lexeme?_name_append_feed (c : Char) (t u : Text) :
    Terminal.name.lexeme? (c :: t ++ '\n' :: u) =
      (Terminal.name.lexeme? (c :: t)).map (behindFeed u) := by
  by_cases hc : isNameStart c = true
  · obtain ⟨htake, hdrop⟩ := span_append_feed (p := isNameChar) (by decide) t u
    rw [List.cons_append, lexeme?_name_cons _ hc, lexeme?_name_cons _ hc, htake, hdrop]
    rfl
  · have hopens : Terminal.name.opens c = false := Bool.eq_false_iff.2 hc
    rw [List.cons_append, lexeme?_eq_none hopens, lexeme?_eq_none hopens]
    rfl

/-- Where some token can be read, each terminal reads before a line feed what it reads at the
end. -/
theorem lexeme?_append_feed (hj : (j.lexeme? t).isSome = true) (k : Terminal) (u : Text) :
    k.lexeme? (t ++ '\n' :: u) = (k.lexeme? t).map (behindFeed u) := by
  obtain ⟨c, v, rfl⟩ : ∃ c v, t = c :: v := by
    obtain ⟨⟨w, r⟩, hread⟩ := Option.isSome_iff_exists.1 hj
    obtain ⟨hw, rfl⟩ := matches_of_lexeme? hread
    obtain ⟨c, v, rfl, -⟩ := hw.exists_cons
    exact ⟨c, v ++ r, rfl⟩
  cases k
  case name => exact lexeme?_name_append_feed c v u
  case suffix => exact lexeme?_suffix_append_feed c v u
  case labelOp => exact lexeme?_labelOp_append_feed c v u
  case literal => exact lexeme?_delimited_append_feed (Or.inl rfl) hj u
  case charset => exact lexeme?_delimited_append_feed (Or.inr (Or.inl rfl)) hj u
  case action => exact lexeme?_delimited_append_feed (Or.inr (Or.inr (Or.inl rfl))) hj u
  case options => exact lexeme?_delimited_append_feed (Or.inr (Or.inr (Or.inr rfl))) hj u
  all_goals exact literal?_append_feed (by decide) _ u

theorem word?_append_feed (hj : (j.lexeme? t).isSome = true)
    (accepts : Terminal → Bool) (u : Text) :
    word? accepts (t ++ '\n' :: u) = (word? accepts t).map (behindFeed u) := by
  by_cases hname : accepts .name = true
  · have hlong := lexeme?_append_feed hj .name u
    cases hread : Terminal.name.lexeme? t with
    | none =>
      rw [hread] at hlong
      rw [word?, word?, if_pos hname, if_pos hname, hlong, hread]
      rfl
    | some wr =>
      rw [hread] at hlong
      rw [word?_of_name hname hlong, word?_of_name hname hread]
      split_ifs <;> rfl
  · simp only [word?, lexeme?_append_feed hj, if_neg hname]
    rw [List.map_findSome?]
    congr 1
    funext k
    simp only [Function.comp_apply]
    split
    · rw [Option.map_map, Option.map_map]
      rfl
    · rfl

theorem sign?_append_feed (hj : (j.lexeme? t).isSome = true)
    (accepts : Terminal → Bool) (u : Text) :
    sign? accepts (t ++ '\n' :: u) = (sign? accepts t).map (behindFeed u) := by
  simp only [sign?, lexeme?_append_feed hj]
  rw [List.map_findSome?]
  congr 1
  funext k
  simp only [Function.comp_apply]
  split
  · rw [Option.map_map, Option.map_map]
    rfl
  · rfl

theorem blockComment?_append {t w r : Text} (h : blockComment? t = some (w, r)) (v : Text) :
    blockComment? (t ++ v) = some (w, r ++ v) := by
  fun_induction blockComment? t generalizing w with
  | case1 t =>
    obtain ⟨rfl, rfl⟩ := Prod.mk.inj (Option.some.inj h)
    rfl
  | case2 c t hc ih =>
    obtain ⟨⟨w', r'⟩, hw, hwr⟩ := Option.map_eq_some_iff.1 h
    obtain ⟨rfl, rfl⟩ := Prod.mk.inj hwr
    have hends : ∀ s, c = '*' → t ++ v = '/' :: s → False := by
      intro s hstar hslash
      obtain ⟨d, t, rfl⟩ : ∃ d u, t = d :: u := by
        cases t with
        | nil => cases hw
        | cons d u => exact ⟨d, u, rfl⟩
      obtain ⟨rfl, -⟩ := List.cons.inj hslash
      exact hc t hstar rfl
    rw [List.cons_append, blockComment?.eq_2 c (t ++ v) hends, ih hw]
    rfl
  | case3 => cases h

theorem comment?_append_feed {t w r : Text} (h : comment? t = some (w, r)) (u : Text) :
    comment? (t ++ '\n' :: u) = some (w, r ++ '\n' :: u) := by
  unfold comment? at h
  split at h
  · rename_i v
    obtain ⟨rfl, rfl⟩ := Prod.mk.inj (Option.some.inj h)
    obtain ⟨htake, hdrop⟩ := span_append_feed (p := (· != '\n')) (by decide) v u
    rw [List.cons_append, List.cons_append, comment?, htake, hdrop]
  · obtain ⟨⟨w', r'⟩, hw, hwr⟩ := Option.map_eq_some_iff.1 h
    obtain ⟨rfl, rfl⟩ := Prod.mk.inj hwr
    rw [List.cons_append, List.cons_append, comment?, blockComment?_append hw]
    rfl
  · cases h

/-- A token or a comment is cut off the joined texts as off the first one. -/
theorem piece?_append_feed {p : Piece} (h : piece? accepts t = some (p, r))
    (hp : ∀ w, p ≠ .layout w) (u : Text) :
    piece? accepts (t ++ '\n' :: u) = some (p, r ++ '\n' :: u) := by
  rcases piece?_cases h with ⟨w, rfl, -⟩ | ⟨w, rfl, -, -, hall⟩ |
    ⟨k, rfl, hk, -, -, -, hread, hcomment⟩
  · exact absurd rfl (hp w)
  · cases t with
    | nil => cases h
    | cons c t =>
      simp only [piece?] at h
      split at h
      · cases h
      rename_i hc
      split at h
      · rename_i w' r' hcomment
        obtain ⟨hw, rfl⟩ := Prod.mk.inj (Option.some.inj h)
        obtain rfl := Piece.comment.inj hw
        have hlong := comment?_append_feed hcomment u
        rw [List.cons_append] at hlong ⊢
        simp only [piece?, if_neg hc, hlong]
      · obtain ⟨x, -, hx⟩ := Option.map_eq_some_iff.1 h
        cases hx
  · have hj : (k.kind.lexeme? t).isSome = true := by rw [hread]; rfl
    obtain ⟨hm, -⟩ := matches_of_lexeme? hread
    obtain ⟨c, v, hlexeme, hopens⟩ := hm.exists_cons
    obtain ⟨-, rfl⟩ := matches_of_lexeme? hread
    have hword := word?_append_feed hj accepts u
    have hsign := sign?_append_feed hj accepts u
    simp only [hlexeme, List.cons_append] at h hword hsign ⊢
    simp only [piece?, isLayout_of_opens hopens, Bool.false_eq_true, if_false,
      comment?_eq_none (ne_slash_of_opens hopens)] at h ⊢
    obtain ⟨⟨k', r'⟩, hk', hkr⟩ := Option.map_eq_some_iff.1 h
    obtain ⟨hkk, rfl⟩ := Prod.mk.inj hkr
    obtain rfl := Piece.token.inj hkk
    rw [hword, hsign, ← Option.map_or, hk']
    rfl

/-! ## Scans over joined texts -/

section Scans

variable {σ : Type} {m : Scanner σ} {s s' : σ} {ps us : List Piece} {js : List Token}

/-- A scan goes on alike from two states that admit the same tokens and lead to the same states. -/
theorem Scanner.Cuts.congr (h : m.Cuts s t ps) (hnext : ∀ k, m.next? s' k = m.next? s k)
    (hend : m.mayEnd s' = m.mayEnd s) : m.Cuts s' t ps := by
  have hadmits : m.admits s' = m.admits s := funext fun k => by rw [admits, hnext, admits]
  induction h with
  | done h => exact .done (hend.trans h)
  | token hp hs hrest _ => exact .token (hadmits ▸ hp) ((hnext _).trans hs) hrest
  | skip hk hp _ ih => exact .skip hk (hadmits ▸ hp) (ih hnext hend hadmits)

theorem piece?_of_isLayout {c : Char} (hc : isLayout c = true) (t : Text) :
    piece? accepts (c :: t) =
      some (.layout ((c :: t).takeWhile isLayout), (c :: t).dropWhile isLayout) := by
  simp only [piece?, if_pos hc]

theorem eq_of_piece?_layout (h : piece? accepts t = some (.layout w, r)) :
    w = t.takeWhile isLayout ∧ r = t.dropWhile isLayout := by
  cases t with
  | nil => cases h
  | cons c t =>
    by_cases hc : isLayout c = true
    · rw [piece?_of_isLayout hc] at h
      obtain ⟨hw, hr⟩ := Prod.mk.inj (Option.some.inj h)
      exact ⟨(Piece.layout.inj hw).symm, hr.symm⟩
    · simp only [piece?, if_neg hc] at h
      split at h
      · cases h
      · obtain ⟨x, -, hx⟩ := Option.map_eq_some_iff.1 h
        cases hx

theorem forall_isLayout_of_piece? (h : piece? accepts t = some (.layout w, r)) :
    ∀ c ∈ w, isLayout c = true := by
  obtain ⟨rfl, -⟩ := eq_of_piece?_layout h
  exact fun c hc => List.mem_takeWhile_imp hc

theorem head?_of_piece?_layout (h : piece? accepts t = some (.layout w, r)) :
    ∀ c ∈ r.head?, isLayout c = false := by
  obtain ⟨-, rfl⟩ := eq_of_piece?_layout h
  intro c hc
  have hstop := List.head?_dropWhile_not isLayout t
  rwa [Option.mem_def.1 hc] at hstop

/-- The scan of a text that begins with something else than a token. -/
theorem Scanner.Cuts.of_skip {p : Piece} (h : m.Cuts s t ps) (hk : p.token? = none)
    (hp : piece? (m.admits s) t = some (p, r)) : ∃ qs, ps = p :: qs ∧ m.Cuts s r qs := by
  cases h with
  | done => cases hp
  | token hp' _ _ =>
    obtain ⟨rfl, -⟩ := Prod.mk.inj (Option.some.inj (hp.symm.trans hp'))
    cases hk
  | skip _ hp' hrest =>
    obtain ⟨rfl, rfl⟩ := Prod.mk.inj (Option.some.inj (hp.symm.trans hp'))
    exact ⟨_, rfl, hrest⟩

/-- The scan of a text that begins with a token. -/
theorem Scanner.Cuts.of_token {k : Token} {q : σ} (h : m.Cuts s t ps)
    (hp : piece? (m.admits s) t = some (.token k, r)) (hs : m.next? s k.kind = some q) :
    ∃ qs, ps = .token k :: qs ∧ m.Cuts q r qs := by
  cases h with
  | done => cases hp
  | token hp' hs' hrest =>
    obtain ⟨hk, rfl⟩ := Prod.mk.inj (Option.some.inj (hp.symm.trans hp'))
    obtain rfl := Piece.token.inj hk
    obtain rfl := Option.some.inj (hs.symm.trans hs')
    exact ⟨_, rfl, hrest⟩
  | skip hk hp' _ =>
    obtain ⟨rfl, -⟩ := Prod.mk.inj (Option.some.inj (hp.symm.trans hp'))
    cases hk

/-- A scan of a text without the layout in front of it. -/
theorem Scanner.Cuts.dropWhile_isLayout (h : m.Cuts s u us) :
    ∃ vs, m.Cuts s (u.dropWhile isLayout) vs := by
  cases u with
  | nil => exact ⟨us, h⟩
  | cons c u =>
    by_cases hc : isLayout c = true
    · obtain ⟨vs, -, hvs⟩ := h.of_skip rfl (piece?_of_isLayout hc u)
      exact ⟨vs, hvs⟩
    · rw [List.dropWhile_cons_of_neg hc]
      exact ⟨us, h⟩

/-! ## The seam -/

/-- Pieces with layout put in front of them; layout that they begin with is lengthened. -/
def withLayout (w : Text) : List Piece → List Piece
  | .layout v :: us => .layout (w ++ v) :: us
  | us => .layout w :: us

/-- The pieces of two texts joined by a line feed: the layout around it is one piece. -/
def seamed : List Piece → List Piece → List Piece
  | [], us => withLayout ['\n'] us
  | [.layout w], us => withLayout (w ++ ['\n']) us
  | p :: ps, us => p :: seamed ps us

theorem withLayout_eq_cons (hp : ∀ v, us.head? ≠ some (.layout v)) :
    withLayout w us = .layout w :: us :=
  withLayout.eq_2 w us fun v vs h => hp v (by rw [h]; rfl)

theorem tokensOf_withLayout (w : Text) (us : List Piece) :
    tokensOf (withLayout w us) = tokensOf us := by
  rw [withLayout.eq_def]
  split <;> rfl

theorem seamed_cons {p : Piece} (h : (∀ w, p ≠ .layout w) ∨ ps ≠ []) :
    seamed (p :: ps) us = p :: seamed ps us :=
  seamed.eq_3 us p ps fun w hp hps => h.elim (· w hp) (· hps)

theorem withLayout_withLayout (v w : Text) (us : List Piece) :
    withLayout v (withLayout w us) = withLayout (v ++ w) us := by
  rw [withLayout.eq_def w, withLayout.eq_def (v ++ w)]
  split
  · rw [withLayout, List.append_assoc]
  · rfl

theorem seamed_layout (hp : ∀ v, ps.head? ≠ some (.layout v)) :
    seamed (.layout w :: ps) us = withLayout w (seamed ps us) := by
  cases ps with
  | nil => rw [seamed, seamed, withLayout_withLayout]
  | cons p ps =>
    have hnot : ∀ v, p ≠ .layout v := fun v hv => hp v (congrArg some hv)
    have hhead : ∀ v, (p :: seamed ps us).head? ≠ some (.layout v) := hp
    rw [seamed_cons (Or.inr (List.cons_ne_nil p ps)), seamed_cons (Or.inl hnot),
      withLayout_eq_cons hhead]

theorem tokensOf_seamed (ps us : List Piece) :
    tokensOf (seamed ps us) = tokensOf ps ++ tokensOf us := by
  fun_induction seamed ps us with
  | case1 us => exact tokensOf_withLayout _ us
  | case2 w us => exact tokensOf_withLayout _ us
  | case3 p ps us _ ih =>
    cases p with
    | token k => rw [tokensOf_token, tokensOf_token, ih, List.cons_append]
    | layout | comment => rw [tokensOf_skip rfl, tokensOf_skip rfl, ih]

/-- Layout may be put in front of a text. -/
theorem Scanner.Cuts.withLayout (h : m.Cuts s u us) (hne : w ≠ [])
    (hw : ∀ c ∈ w, isLayout c = true) :
    m.Cuts s (w ++ u) (withLayout w us) := by
  by_cases hus : ∃ v vs, us = .layout v :: vs
  · obtain ⟨v, vs, rfl⟩ := hus
    cases h with
    | skip _ hp hrest =>
      obtain ⟨rfl, -⟩ := piece?_eq_append hp
      rw [← List.append_assoc]
      refine .skip rfl (piece?_layout_append (List.append_ne_nil_of_left_ne_nil hne v) ?_
        (head?_of_piece?_layout hp)) hrest
      exact fun c hc => (List.mem_append.1 hc).elim (hw c) (forall_isLayout_of_piece? hp c)
  · rw [withLayout_eq_cons fun v hv => hus ⟨v, List.head?_eq_some_iff.1 hv⟩]
    refine .skip rfl (piece?_layout_append hne hw fun c hc => ?_) h
    -- A text that begins with layout is cut into layout first.
    refine Bool.eq_false_iff.2 fun hlayout => hus ?_
    obtain ⟨v, rfl⟩ := List.head?_eq_some_iff.1 hc
    obtain ⟨vs, hvs, -⟩ := h.of_skip rfl (piece?_of_isLayout hlayout v)
    exact ⟨_, vs, hvs⟩

/-- No layout stands behind layout. -/
theorem Scanner.Cuts.head?_ne_layout (h : m.Cuts s t (.layout w :: ps)) (v : Text) :
    ps.head? ≠ some (.layout v) := by
  intro hv
  obtain ⟨vs, rfl⟩ := List.head?_eq_some_iff.1 hv
  cases h with
  | skip _ hp hrest =>
    obtain ⟨rfl, hne⟩ := piece?_eq_append hp
    have hmerged := hrest.withLayout hne (forall_isLayout_of_piece? hp)
    have hlength := congrArg List.length (hmerged.unique (.skip rfl hp hrest))
    exact absurd hlength (by simp [Notation.withLayout])

/-- Behind a text that is cut, and a line feed, the scan goes on where the text ended. -/
theorem Scanner.Cuts.seamed (h : m.Cuts s t ps) :
    ∃ q, m.mayEnd q = true ∧ ∀ u us, m.Cuts q u us → m.Cuts s (t ++ '\n' :: u) (seamed ps us) := by
  induction h with
  | @done s hend =>
    exact ⟨s, hend, fun u us hu => hu.withLayout (List.cons_ne_nil '\n' [])
      (List.forall_mem_singleton.2 rfl)⟩
  | token hp hs _ ih =>
    obtain ⟨q, hend, ih⟩ := ih
    refine ⟨q, hend, fun u us hu => ?_⟩
    rw [seamed_cons (Or.inl fun w h => by cases h)]
    exact .token (piece?_append_feed hp (fun w h => by cases h) u) hs (ih u us hu)
  | @skip s t r p ps hk hp hrest ih =>
    obtain ⟨q, hend, ih⟩ := ih
    refine ⟨q, hend, fun u us hu => ?_⟩
    cases p with
    | token k => cases hk
    | comment w =>
      rw [seamed_cons (Or.inl fun w h => by cases h)]
      exact .skip rfl (piece?_append_feed hp (fun w h => by cases h) u) (ih u us hu)
    | layout w =>
      have hlayout := forall_isLayout_of_piece? hp
      have halone := (Scanner.Cuts.skip rfl hp hrest).head?_ne_layout
      obtain ⟨rfl, hne⟩ := piece?_eq_append hp
      rw [List.append_assoc, seamed_layout halone]
      exact (ih u us hu).withLayout hne hlayout

/-- A text that is cut, a line feed, and a text that is cut wherever the first one may end: the
tokens of the whole are those of the first text, and then those of the second. -/
theorem Scanner.Cuts.append_feed (h : m.Cuts s t ps)
    (hu : ∀ q, m.mayEnd q = true → ∃ us, m.Cuts q u us ∧ tokensOf us = js) :
    ∃ vs, m.Cuts s (t ++ '\n' :: u) vs ∧ tokensOf vs = tokensOf ps ++ js := by
  obtain ⟨q, hend, hcuts⟩ := h.seamed
  obtain ⟨us, hus, rfl⟩ := hu q hend
  exact ⟨_, hcuts u us hus, tokensOf_seamed ps us⟩

/-- Layout may be taken away from the front of a text. -/
theorem Scanner.Cuts.of_layout_append (h : m.Cuts s (w ++ u) us)
    (hw : ∀ c ∈ w, isLayout c = true) : ∃ vs, m.Cuts s u vs := by
  obtain ⟨vs, hvs⟩ := h.dropWhile_isLayout
  rw [List.dropWhile_append_of_pos hw] at hvs
  by_cases hlayout : u.takeWhile isLayout = []
  · rw [List.dropWhile_eq_self_iff.2 (List.takeWhile_eq_nil_iff.1 hlayout)] at hvs
    exact ⟨vs, hvs⟩
  · have hcuts := hvs.withLayout hlayout fun c hc => List.mem_takeWhile_imp hc
    rw [List.takeWhile_append_dropWhile] at hcuts
    exact ⟨_, hcuts⟩

/-- What stands behind a text that is cut, and a line feed, is cut from where that text ended. -/
theorem Scanner.Cuts.of_append_feed (h : m.Cuts s t ps) {vs : List Piece}
    (hv : m.Cuts s (t ++ '\n' :: u) vs) :
    ∃ q us, m.mayEnd q = true ∧ m.Cuts q u us := by
  induction h generalizing vs with
  | @done s hend =>
    obtain ⟨us, hus⟩ :=
      Scanner.Cuts.of_layout_append (w := ['\n']) hv (List.forall_mem_singleton.2 rfl)
    exact ⟨s, us, hend, hus⟩
  | token hp hs _ ih =>
    have hpiece := piece?_append_feed hp (fun w h => by cases h) u
    obtain ⟨us, -, hus⟩ := hv.of_token hpiece hs
    exact ih hus
  | @skip s t r p ps hk hp hrest ih =>
    cases p with
    | token k => cases hk
    | layout w =>
      obtain ⟨rfl, -⟩ := piece?_eq_append hp
      rw [List.append_assoc] at hv
      obtain ⟨us, hus⟩ := Scanner.Cuts.of_layout_append (w := w) hv (forall_isLayout_of_piece? hp)
      exact ih hus
    | comment w =>
      have hpiece := piece?_append_feed hp (fun w h => by cases h) u
      obtain ⟨us, -, hus⟩ := hv.of_skip rfl hpiece
      exact ih hus

/-- A text that may end does so between rules, where the next one begins. -/
theorem orderly_cuts_top {q : Place} (hq : orderly.mayEnd q = true) :
    orderly.Cuts q u us ↔ orderly.Cuts ⟨.top, 0⟩ u us := by
  obtain ⟨phase, depth⟩ := q
  obtain rfl : phase = .top := beq_iff_eq.1 hq
  have hnext : ∀ d e k, orderly.next? ⟨.top, d⟩ k = orderly.next? ⟨.top, e⟩ k :=
    fun d e k => by cases k <;> rfl
  exact ⟨fun h => h.congr (hnext 0 depth) rfl, fun h => h.congr (hnext depth 0) rfl⟩

theorem orderly_append_feed (ht : orderly.Cuts ⟨.top, 0⟩ t ps) (hu : orderly.Cuts ⟨.top, 0⟩ u us) :
    orderly.Cuts ⟨.top, 0⟩ (t ++ '\n' :: u) (seamed ps us) := by
  obtain ⟨q, hend, hcuts⟩ := ht.seamed
  exact hcuts u us ((orderly_cuts_top hend).2 hu)

theorem orderly_of_append_feed {vs : List Piece} (ht : orderly.Cuts ⟨.top, 0⟩ t ps)
    (hv : orderly.Cuts ⟨.top, 0⟩ (t ++ '\n' :: u) vs) : ∃ us, orderly.Cuts ⟨.top, 0⟩ u us := by
  obtain ⟨q, us, hend, hus⟩ := ht.of_append_feed hv
  exact ⟨us, (orderly_cuts_top hend).1 hus⟩

end Scans

end Concordance.Notation
