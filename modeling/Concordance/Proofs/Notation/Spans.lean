import Concordance.Proofs.Notation.Fragments
import Concordance.Proofs.Notation.Parts
import Concordance.Proofs.Notation.Recut
import Mathlib.Data.List.Sort

/-!
# Nothing of a text is lost

Every part of a text becomes productions where it stands: a rule becomes one, a comment between
statements becomes one, and a header becomes those of its comments.  The reader arrives at them by
another way.  It takes the rules from the statements, the comments from a scan of their own, drops
the comments inside rules, and puts the others between the rules by their offsets.

* `spansOf` lists the productions part by part, and `pairwise_spansOf` says that their stretches
  lie one behind another.
* `rules_locate` and `commentsOutside_locate`: the reader takes those of rules, and those of
  comments.
* `foldl_insertSpan_eq`: whatever is put in by its offset comes to stand in order.
* `Accounts` says what the productions of a text are and what is left over; the last theorem puts
  all together.
-/

namespace Concordance.Notation

variable {t before : Text} {o : Nat} {ps : List Piece} {ks : List Token}
  {parts : List Part} {s : Span}

/-! ## The stretches of the parts -/

/-- The production of a comment and where it stands. -/
def Span.ofComment (x : Nat × Text) : Span :=
  ⟨x.1, x.1 + x.2.length, { name := none, body := Text.trim x.2, text := Text.trim x.2 }⟩

/-- Whether a stretch is that of a rule. -/
def Span.isNamed (s : Span) : Bool := s.production.name.isSome

/-- The productions of a part that starts at an offset. -/
def Part.spans (o : Nat) : Part → List Span
  | .layout _ _ _ => []
  | .comment w _ => [Span.ofComment (o, w)]
  | .rule r s => [⟨o, o + s.text.length, { r.production with text := s.text }⟩]
  | .header _ s => (commentsOf (locate o s.pieces)).map Span.ofComment

/-- The productions of parts, the first of which starts at an offset. -/
def spansOf (o : Nat) (parts : List Part) : List Span :=
  (placed o parts).flatMap fun x => x.2.spans x.1

theorem spansOf_cons (o : Nat) (p : Part) (parts : List Part) :
    spansOf o (p :: parts) = p.spans o ++ spansOf (o + p.text.length) parts := rfl

theorem mem_commentsOf {x : Nat × Text} {ps : List (Nat × Piece)} :
    x ∈ commentsOf ps ↔ (x.1, .comment x.2) ∈ ps := by
  rw [commentsOf, List.mem_filterMap]
  constructor
  · rintro ⟨⟨o, p⟩, hmem, hp⟩
    cases p with
    | layout | token => cases hp
    | comment w =>
      obtain rfl := Option.some.inj hp
      exact hmem
  · exact fun h => ⟨_, h, rfl⟩

/-- A comment of pieces that are not empty lies between their ends. -/
theorem of_mem_commentsOf (hne : ∀ p ∈ ps, p.text ≠ []) {x : Nat × Text}
    (hx : x ∈ commentsOf (locate o ps)) :
    o ≤ x.1 ∧ x.1 < x.1 + x.2.length ∧ x.1 + x.2.length ≤ o + (textOf ps).length := by
  obtain ⟨hmem, hfirst, hlast⟩ := of_mem_locate (mem_commentsOf.1 hx)
  exact ⟨hfirst, Nat.lt_add_of_pos_right (List.length_pos_iff.2 (hne _ hmem)), hlast⟩

theorem Stretch.text_pos (s : Stretch ks) : 0 < s.text.length := by
  obtain ⟨k, hk⟩ := s.head
  obtain ⟨ps, hps⟩ := List.head?_eq_some_iff.1 hk
  have hne := List.length_pos_iff.2 (s.text_ne_nil (.token k) (hps ▸ List.mem_cons_self))
  rw [Stretch.text, hps, textOf_cons, List.length_append]
  omega

/-- The productions of a part are read between its ends. -/
theorem Part.of_mem_spans {p : Part} (hs : s ∈ p.spans o) :
    o ≤ s.start ∧ s.start < s.stop ∧ s.stop ≤ o + p.text.length := by
  cases p with
  | layout w => cases hs
  | comment w hne =>
    obtain rfl := List.mem_singleton.1 hs
    have hpos := List.length_pos_iff.2 hne
    have htext : (Part.comment w hne).text = w := List.append_nil w
    exact ⟨Nat.le_refl _, Nat.lt_add_of_pos_right hpos, by rw [htext]; exact Nat.le_refl _⟩
  | rule r st =>
    obtain rfl := List.mem_singleton.1 hs
    exact ⟨Nat.le_refl _, Nat.lt_add_of_pos_right st.text_pos, Nat.le_refl _⟩
  | header h st =>
    obtain ⟨x, hx, rfl⟩ := List.mem_map.1 hs
    exact of_mem_commentsOf st.text_ne_nil hx

theorem of_mem_spansOf (hs : s ∈ spansOf o parts) : o ≤ s.start ∧ s.start < s.stop := by
  induction parts generalizing o with
  | nil => cases hs
  | cons p parts ih =>
    rw [spansOf_cons] at hs
    rcases List.mem_append.1 hs with hs | hs
    · exact ⟨(Part.of_mem_spans hs).1, (Part.of_mem_spans hs).2.1⟩
    · obtain ⟨hfirst, hlast⟩ := ih hs
      exact ⟨by omega, hlast⟩

theorem pairwise_locate (o : Nat) (ps : List Piece) :
    (locate o ps).Pairwise fun x y => x.1 + x.2.text.length ≤ y.1 := by
  induction ps generalizing o with
  | nil => exact .nil
  | cons p ps ih => exact .cons (fun y hy => (of_mem_locate hy).2.1) (ih _)

theorem Part.pairwise_spans (o : Nat) (p : Part) :
    (p.spans o).Pairwise fun a b => a.stop ≤ b.start := by
  cases p with
  | layout w => exact .nil
  | comment w | rule r st => exact List.pairwise_singleton _ _
  | header h st =>
    rw [Part.spans, List.pairwise_map, commentsOf, List.pairwise_filterMap]
    refine (pairwise_locate o st.pieces).imp fun {x y} hxy a ha b hb => ?_
    obtain ⟨i, p⟩ := x
    obtain ⟨j, q⟩ := y
    cases p with
    | layout | token => cases ha
    | comment v =>
      cases q with
      | layout | token => cases hb
      | comment w =>
        obtain rfl := Option.some.inj ha
        obtain rfl := Option.some.inj hb
        exact hxy

/-- The stretches of the parts lie one behind another. -/
theorem pairwise_spansOf (o : Nat) (parts : List Part) :
    (spansOf o parts).Pairwise fun a b => a.stop ≤ b.start := by
  induction parts generalizing o with
  | nil => exact .nil
  | cons p parts ih =>
    rw [spansOf_cons, List.pairwise_append]
    refine ⟨p.pairwise_spans o, ih _, fun a ha b hb => ?_⟩
    exact Nat.le_trans (Part.of_mem_spans ha).2.2 (of_mem_spansOf hb).1

theorem ascending_spansOf (o : Nat) (parts : List Part) :
    (spansOf o parts).Pairwise fun a b => a.start < b.start := by
  refine (pairwise_spansOf o parts).imp_of_mem fun {a b} ha _ hab => ?_
  exact Nat.lt_of_lt_of_le (of_mem_spansOf ha).2 hab

/-! ## Rules -/

theorem tokens_locate_append (o : Nat) (ps qs : List Piece) :
    tokens (locate o (ps ++ qs)) =
      tokens (locate o ps) ++ tokens (locate (o + (textOf ps).length) qs) := by
  rw [locate_append, tokens, List.filterMap_append, ← tokens, ← tokens]

namespace Stretch

variable (s : Stretch ks)

theorem map_tokens (o : Nat) : (tokens (locate o s.pieces)).map (·.2) = ks := by
  rw [tokens_locate, s.tokensOf_pieces]

theorem head?_tokens (o : Nat) : (tokens (locate o s.pieces)).head?.map (·.1) = some o := by
  obtain ⟨k, hk⟩ := s.head
  obtain ⟨ps, hps⟩ := List.head?_eq_some_iff.1 hk
  rw [hps]
  rfl

theorem getLast?_tokens (o : Nat) : ∃ b, b + 1 = o + s.text.length ∧
    (tokens (locate o s.pieces)).getLast? = some (b, Terminal.token .semicolon) := by
  obtain ⟨ps, hps⟩ := List.getLast?_eq_some_iff.1 s.last
  refine ⟨o + (textOf ps).length, ?_, by rw [hps, getLast?_tokens_locate]⟩
  rw [text, hps, textOf_append, List.length_append, ← Nat.add_assoc]
  rfl

end Stretch

theorem rule?_stretch {r : RuleTokens} (st : Stretch r.tokens) (before after : Text) :
    rule? (before ++ (st.text ++ after)) (tokens (locate before.length st.pieces)) =
      some ⟨before.length, before.length + st.text.length,
        { r.production with text := st.text }⟩ := by
  obtain ⟨a, b, ha, hb, hrule⟩ :=
    rule?_of_tokens (t := before ++ (st.text ++ after)) (st.map_tokens before.length)
  obtain ⟨b', hb', hlast⟩ := st.getLast?_tokens before.length
  obtain rfl := Option.some.inj ((st.head?_tokens before.length).symm.trans ha)
  rw [hlast] at hb
  obtain rfl : b' = b := Option.some.inj hb
  rw [hrule, hb', Nat.add_sub_cancel_left, List.drop_left, List.take_left]

/-- The tokens of a header are one statement, and it states nothing. -/
theorem rules_of_header {h : HeaderTokens} {ks : Tokens} (hks : ks.map (·.2) = h.tokens) :
    statements ks = [ks] ∧ rule? t ks = none := by
  have hnone : rule? t ks = none :=
    rule?_eq_none fun k hk => HeaderTokens.kind_ne_colon (hks ▸ List.mem_map_of_mem hk)
  obtain ⟨front, last, rfl, hfront, hlast⟩ := List.map_eq_append_iff.1 hks
  obtain ⟨semi, rfl, hsemi⟩ := List.map_eq_singleton_iff.1 hlast
  refine ⟨statements_of_open (fun k hk => ?_) (by rw [hsemi]; rfl), hnone⟩
  exact (HeaderTokens.kind_of_mem_front (hfront ▸ List.mem_map_of_mem hk)).2

theorem filter_ofComment (xs : List (Nat × Text)) :
    (xs.map Span.ofComment).filter Span.isNamed = [] ∧
      (xs.map Span.ofComment).filter (fun s => !s.isNamed) = xs.map Span.ofComment := by
  constructor
  · refine List.filter_eq_nil_iff.2 fun s hs => ?_
    obtain ⟨x, -, rfl⟩ := List.mem_map.1 hs
    exact Bool.false_ne_true
  · refine List.filter_eq_self.2 fun s hs => ?_
    obtain ⟨x, -, rfl⟩ := List.mem_map.1 hs
    rfl

/-- The reader finds in a part the rule that it is, if it is one. -/
theorem rules_part (p : Part) (before after : Text) :
    rules (before ++ (p.text ++ after)) (locate before.length p.pieces) =
      (p.spans before.length).filter Span.isNamed := by
  cases p with
  | layout w | comment w => rfl
  | rule r st =>
    rw [rules, Part.pieces, statements_of_tokens (st.map_tokens before.length)]
    exact List.filterMap_cons_some (rule?_stretch st before after)
  | header h st =>
    obtain ⟨hstatements, hnone⟩ :=
      rules_of_header (t := before ++ ((Part.header h st).text ++ after))
        (st.map_tokens before.length)
    rw [rules, Part.pieces, hstatements, List.filterMap_cons_none hnone, Part.spans,
      (filter_ofComment _).1]
    rfl

/-- A part ends with a semicolon, or it holds no token. -/
theorem Part.semicolon_of_getLast? {p : Part} {k : Nat × Token}
    (hk : k ∈ (tokens (locate o p.pieces)).getLast?) : k.2.kind = .semicolon := by
  cases p with
  | layout w | comment w => cases hk
  | rule r st | header h st =>
    obtain ⟨b, -, hlast⟩ := st.getLast?_tokens o
    obtain rfl := Option.some.inj (hlast.symm.trans hk)
    rfl

/-- The rules that the reader finds are those among the parts. -/
theorem rules_locate (before : Text) (parts : List Part) :
    rules (before ++ textOf (piecesOf parts)) (locate before.length (piecesOf parts)) =
      (spansOf before.length parts).filter Span.isNamed := by
  induction parts generalizing before with
  | nil => rfl
  | cons p parts ih =>
    have hrest := ih (before ++ p.text)
    rw [List.append_assoc, List.length_append] at hrest
    rw [textOf_piecesOf_cons, piecesOf_cons, rules, tokens_locate_append,
      statements_append fun k hk => p.semicolon_of_getLast? hk, List.filterMap_append, ← rules,
      rules_part, ← rules]
    rw [spansOf_cons, List.filter_append, ← hrest]
    rfl

/-! ## Comments -/

/-- Whether some stretch covers an offset. -/
def covers (spans : List Span) (i : Nat) : Bool := spans.any fun s => s.start ≤ i && i < s.stop

theorem covers_iff {spans : List Span} {i : Nat} :
    covers spans i = true ↔ ∃ s ∈ spans, s.start ≤ i ∧ i < s.stop := by
  simp only [covers, List.any_eq_true, Bool.and_eq_true, decide_eq_true_eq]

theorem covers_append (as bs : List Span) (i : Nat) :
    covers (as ++ bs) i = (covers as i || covers bs i) :=
  List.any_append

theorem covers_eq_false {spans : List Span} {i : Nat} (h : ∀ s ∈ spans, s.stop ≤ i ∨ i < s.start) :
    covers spans i = false := by
  rw [← Bool.not_eq_true, covers_iff]
  rintro ⟨s, hs, hfirst, hlast⟩
  rcases h s hs with h | h <;> omega

/-- Which comments are kept is told from the comments alone. -/
theorem commentsOutside_eq (spans : List Span) (ps : List (Nat × Piece)) :
    commentsOutside spans ps =
      (commentsOf ps).filterMap fun x => if covers spans x.1 then none
        else some (Span.ofComment x) := by
  rw [commentsOf, List.filterMap_filterMap, commentsOutside]
  refine List.filterMap_congr fun x _ => ?_
  obtain ⟨o, p⟩ := x
  cases p <;> rfl

/-- Of the comments of a part those are kept that are not in a rule, if no other rule covers any of
it. -/
theorem commentsOutside_part (p : Part) {spans : List Span} (h : ∀ i, o ≤ i →
    i < o + p.text.length → covers spans i = covers ((p.spans o).filter Span.isNamed) i) :
    commentsOutside spans (locate o p.pieces) = (p.spans o).filter fun s => !s.isNamed := by
  have hcovers : ∀ x ∈ commentsOf (locate o p.pieces),
      covers spans x.1 = covers ((p.spans o).filter Span.isNamed) x.1 := by
    intro x hx
    obtain ⟨hfirst, hpos, hlast⟩ := of_mem_commentsOf p.text_ne_nil hx
    exact h x.1 hfirst (Nat.lt_of_lt_of_le hpos hlast)
  have hkept : (p.spans o).filter Span.isNamed = [] →
      p.spans o = (commentsOf (locate o p.pieces)).map Span.ofComment →
      commentsOutside spans (locate o p.pieces) = (p.spans o).filter fun s => !s.isNamed := by
    intro hnamed hspans
    rw [hspans, (filter_ofComment _).2, commentsOutside_eq, ← List.filterMap_eq_map]
    refine List.filterMap_congr fun x hx => ?_
    rw [hcovers x hx, hnamed]
    rfl
  cases p with
  | layout w | comment w => exact hkept rfl rfl
  | header _ st => exact hkept (filter_ofComment _).1 rfl
  | rule r st =>
    rw [commentsOutside_eq]
    refine List.filterMap_eq_nil_iff.2 fun x hx => if_pos ?_
    obtain ⟨hfirst, hpos, hlast⟩ := of_mem_commentsOf st.text_ne_nil hx
    rw [hcovers x hx, covers_iff]
    exact ⟨_, List.mem_singleton.2 rfl, hfirst, Nat.lt_of_lt_of_le hpos hlast⟩

/-- The comments that the reader keeps are those of the parts that are no rules. -/
theorem commentsOutside_locate (pre : List Span) (o : Nat) (parts : List Part)
    (hpre : ∀ s ∈ pre, s.stop ≤ o) :
    commentsOutside (pre ++ (spansOf o parts).filter Span.isNamed) (locate o (piecesOf parts)) =
      (spansOf o parts).filter fun s => !s.isNamed := by
  induction parts generalizing o pre with
  | nil => rfl
  | cons p parts ih =>
    have hpre' : ∀ s ∈ pre ++ (p.spans o).filter Span.isNamed, s.stop ≤ o + p.text.length := by
      intro s hs
      rcases List.mem_append.1 hs with hs | hs
      · exact Nat.le_trans (hpre s hs) (Nat.le_add_right _ _)
      · exact (Part.of_mem_spans (List.mem_filter.1 hs).1).2.2
    -- The rules before the part end where it starts, and those behind it start where it ends.
    have hcovers : ∀ i, o ≤ i → i < o + p.text.length →
        covers (pre ++ (p.spans o).filter Span.isNamed ++
          (spansOf (o + p.text.length) parts).filter Span.isNamed) i =
          covers ((p.spans o).filter Span.isNamed) i := by
      intro i hfirst hlast
      have hbefore : covers pre i = false :=
        covers_eq_false fun s hs => Or.inl (Nat.le_trans (hpre s hs) hfirst)
      have hbehind : covers ((spansOf (o + p.text.length) parts).filter Span.isNamed) i = false :=
        covers_eq_false fun s hs =>
          Or.inr (Nat.lt_of_lt_of_le hlast (of_mem_spansOf (List.mem_filter.1 hs).1).1)
      rw [covers_append, covers_append, hbefore, hbehind, Bool.false_or, Bool.or_false]
    rw [spansOf_cons, List.filter_append, List.filter_append, piecesOf_cons, locate_append,
      ← List.append_assoc, commentsOutside, List.filterMap_append, ← commentsOutside,
      ← commentsOutside, commentsOutside_part p hcovers]
    exact congrArg _ (ih _ _ hpre')

/-! ## Order -/

theorem pairwise_insertSpan {rs : List Span}
    (h : rs.Pairwise fun a b => a.start ≤ b.start) (s : Span) :
    (insertSpan s rs).Pairwise fun a b => a.start ≤ b.start := by
  induction h with
  | nil => exact List.pairwise_singleton _ _
  | @cons r rs hr hrs ih =>
    rw [insertSpan]
    split
    · rename_i hs
      refine .cons (List.forall_mem_cons.2 ⟨Nat.le_of_lt hs, fun q hq => ?_⟩) (.cons hr hrs)
      exact Nat.le_trans (Nat.le_of_lt hs) (hr q hq)
    · rename_i hs
      refine .cons (fun q hq => ?_) ih
      rcases List.mem_cons.1 ((insertSpan_perm s rs).mem_iff.1 hq) with rfl | hq
      · exact Nat.not_lt.1 hs
      · exact hr q hq

theorem pairwise_foldl_insertSpan (cs : List Span) {rs : List Span}
    (h : rs.Pairwise fun a b => a.start ≤ b.start) :
    (cs.foldl (fun spans s => insertSpan s spans) rs).Pairwise fun a b => a.start ≤ b.start := by
  induction cs generalizing rs with
  | nil => exact h
  | cons c cs ih => exact ih (pairwise_insertSpan h c)

/-- Stretches that start one behind another come to stand in order, whichever of them are put
in. -/
theorem foldl_insertSpan_eq {spans : List Span} (h : spans.Pairwise fun a b => a.start < b.start)
    (p : Span → Bool) :
    (spans.filter fun s => !p s).foldl (fun spans s => insertSpan s spans) (spans.filter p) =
      spans := by
  have hle : spans.Pairwise fun a b => a.start ≤ b.start := h.imp Nat.le_of_lt
  have hsorted := pairwise_foldl_insertSpan (spans.filter fun s => !p s)
    (hle.sublist (List.filter_sublist (p := p)))
  have hall := (foldl_insertSpan_perm (spans.filter fun s => !p s) (spans.filter p)).trans
    (List.perm_append_comm.trans (List.filter_append_perm p spans))
  -- No two of the stretches start at the same offset, so the order tells them apart.
  have hnodup : (spans.map Span.start).Nodup := List.pairwise_map.2 (h.imp Nat.ne_of_lt)
  refine hall.eq_of_pairwise (fun a b ha hb hab hba => ?_) hsorted hle
  exact List.inj_on_of_nodup_map hnodup (hall.mem_iff.1 ha) hb (Nat.le_antisymm hab hba)

/-! ## Texts -/

/-- The productions of a text and where they stand: those of the rules among its parts and of the
comments outside them, one behind another, with nothing between them but layout and headers. -/
structure Accounts (t : Text) (parts : List Part) (spans : List Span) : Prop where
  /-- The parts are what the text is cut into. -/
  cut : orderly.pieces ⟨.top, 0⟩ t = .ok (piecesOf parts)
  ascending : spans.Pairwise fun a b => a.start < b.start
  apart : spans.Pairwise fun a b => a.stop ≤ b.start
  /-- A named production keeps the text of its rule, from the first token to the semicolon. -/
  rules : ∀ s, s ∈ spans ∧ s.isNamed = true ↔ ∃ o r st, (o, Part.rule r st) ∈ placed 0 parts ∧
    s = ⟨o, o + st.text.length, { r.production with text := (t.drop o).take st.text.length }⟩
  /-- An anonymous production is a comment that starts outside all rules. -/
  comments : ∀ s, s ∈ spans ∧ s.isNamed = false ↔
    ∃ o w, (o, w) ∈ commentsOf (locate 0 (piecesOf parts)) ∧
    (∀ r ∈ spans, r.isNamed = true → ¬ (r.start ≤ o ∧ o < r.stop)) ∧
    s = ⟨o, o + w.length, { name := none, body := Text.trim w, text := Text.trim w }⟩
  /-- Every other character is layout or belongs to a header. -/
  covered : ∀ i c, t[i]? = some c → (∃ s ∈ spans, s.start ≤ i ∧ i < s.stop) ∨ isLayout c = true ∨
    ∃ o h st, (o, Part.header h st) ∈ placed 0 parts ∧ o ≤ i ∧ i < o + st.text.length

theorem mem_spansOf_named {s : Span} : s ∈ spansOf o parts ∧ s.isNamed = true ↔
    ∃ o' r st, (o', Part.rule r st) ∈ placed o parts ∧
      s = ⟨o', o' + st.text.length, { r.production with text := st.text }⟩ := by
  rw [spansOf, List.mem_flatMap]
  constructor
  · rintro ⟨⟨⟨o', p⟩, hp, hs⟩, hnamed⟩
    have hmem : s ∈ (p.spans o').filter Span.isNamed := List.mem_filter.2 ⟨hs, hnamed⟩
    cases p with
    | layout w | comment w => cases hmem
    | header h st =>
      have hnone : (Part.spans o' (.header h st)).filter Span.isNamed = [] :=
        (filter_ofComment _).1
      rw [hnone] at hmem
      cases hmem
    | rule r st => exact ⟨o', r, st, hp, List.mem_singleton.1 hs⟩
  · rintro ⟨o', r, st, hp, rfl⟩
    exact ⟨⟨_, hp, List.mem_singleton.2 rfl⟩, rfl⟩

/-- A rule keeps the text that it has in the whole text. -/
theorem mem_spansOf_named_take (htext : textOf (piecesOf parts) = t) {s : Span} :
    s ∈ spansOf 0 parts ∧ s.isNamed = true ↔ ∃ o r st, (o, Part.rule r st) ∈ placed 0 parts ∧ s =
      ⟨o, o + st.text.length, { r.production with text := (t.drop o).take st.text.length }⟩ := by
  have htake : ∀ o r st, (o, Part.rule r st) ∈ placed 0 parts →
      (t.drop o).take st.text.length = st.text :=
    fun o r st hp => htext ▸ take_drop_placed [] hp
  rw [mem_spansOf_named]
  constructor
  · rintro ⟨o, r, st, hp, rfl⟩
    exact ⟨o, r, st, hp, by rw [htake o r st hp]⟩
  · rintro ⟨o, r, st, hp, rfl⟩
    exact ⟨o, r, st, hp, by rw [htake o r st hp]⟩

/-- The other stretches are the comments that start outside all rules. -/
theorem mem_spansOf_anonymous {s : Span} : s ∈ spansOf 0 parts ∧ s.isNamed = false ↔
    ∃ o w, (o, w) ∈ commentsOf (locate 0 (piecesOf parts)) ∧
      (∀ r ∈ spansOf 0 parts, r.isNamed = true → ¬ (r.start ≤ o ∧ o < r.stop)) ∧
      s = ⟨o, o + w.length, { name := none, body := Text.trim w, text := Text.trim w }⟩ := by
  have hmem : s ∈ spansOf 0 parts ∧ s.isNamed = false ↔
      s ∈ commentsOutside ((spansOf 0 parts).filter Span.isNamed) (locate 0 (piecesOf parts)) := by
    have hkept := commentsOutside_locate [] 0 parts nofun
    rw [List.nil_append] at hkept
    rw [hkept, List.mem_filter, Bool.not_eq_true']
  have hcovers : ∀ i, covers ((spansOf 0 parts).filter Span.isNamed) i = false ↔
      ∀ r ∈ spansOf 0 parts, r.isNamed = true → ¬ (r.start ≤ i ∧ i < r.stop) := by
    intro i
    rw [← Bool.not_eq_true, covers_iff]
    simp only [List.mem_filter, not_exists, not_and, and_imp]
  rw [hmem, commentsOutside_eq, List.mem_filterMap]
  constructor
  · rintro ⟨x, hx, hs⟩
    split at hs
    · cases hs
    · rename_i hout
      exact ⟨x.1, x.2, hx, (hcovers x.1).1 (Bool.eq_false_iff.2 hout), (Option.some.inj hs).symm⟩
  · rintro ⟨o, w, hx, hout, rfl⟩
    exact ⟨(o, w), hx, by rw [(hcovers o).2 hout]; rfl⟩

/-- Each character belongs to a stretch, is layout, or belongs to a header. -/
theorem covered_spansOf (htext : textOf (piecesOf parts) = t) {i : Nat} {c : Char}
    (hc : t[i]? = some c) :
    (∃ s ∈ spansOf 0 parts, s.start ≤ i ∧ i < s.stop) ∨ isLayout c = true ∨
      ∃ o h st, (o, Part.header h st) ∈ placed 0 parts ∧ o ≤ i ∧ i < o + st.text.length := by
  obtain ⟨⟨o, p⟩, hp, hfirst, hlast, hmem⟩ := exists_placed (o := 0) htext hc
  rw [Nat.zero_add] at hfirst hlast
  have hspan : ∀ s ∈ p.spans o, s ∈ spansOf 0 parts :=
    fun s hs => List.mem_flatMap.2 ⟨(o, p), hp, hs⟩
  cases p with
  | layout w hne hlayout =>
    rw [show (Part.layout w hne hlayout).text = w from List.append_nil w] at hmem
    exact Or.inr (Or.inl (hlayout c hmem))
  | comment w hne =>
    rw [show (Part.comment w hne).text = w from List.append_nil w] at hlast
    exact Or.inl ⟨_, hspan _ (List.mem_singleton.2 rfl), hfirst, hlast⟩
  | rule r st => exact Or.inl ⟨_, hspan _ (List.mem_singleton.2 rfl), hfirst, hlast⟩
  | header header st => exact Or.inr (Or.inr ⟨o, header, st, hp, hfirst, hlast⟩)

/-- The stretches of the parts that a text is cut into account for it. -/
theorem accounts_spansOf (h : orderly.Cuts ⟨.top, 0⟩ t (piecesOf parts)) :
    Accounts t parts (spansOf 0 parts) where
  cut := pieces_eq_ok.2 h
  ascending := ascending_spansOf 0 parts
  apart := pairwise_spansOf 0 parts
  rules _ := mem_spansOf_named_take h.textOf
  comments _ := mem_spansOf_anonymous
  covered _ _ := covered_spansOf h.textOf

/-- The reader puts the productions of the parts together as they stand. -/
theorem read_piecesOf (h : orderly.Cuts ⟨.top, 0⟩ t (piecesOf parts)) (source : Text) :
    read t source = .ok ((spansOf 0 parts).map (·.production)) := by
  obtain ⟨qs, hqs, hrecut⟩ := exists_recut h
  have hrules := rules_locate [] parts
  have hcomments := commentsOutside_locate [] 0 parts nofun
  rw [List.nil_append] at hrules hcomments
  rw [h.textOf, List.length_nil] at hrules
  refine read_eq_ok.2 ⟨_, qs, h, hqs, ?_⟩
  rw [hrules, commentsOutside_eq, hrecut.commentsOf_eq, ← commentsOutside_eq, hcomments,
    foldl_insertSpan_eq (ascending_spansOf 0 parts)]

theorem read_spansOf {source : Text} {g : Grammar} (h : read t source = .ok g) :
    ∃ parts, orderly.Cuts ⟨.top, 0⟩ t (piecesOf parts) ∧
      g = (spansOf 0 parts).map (·.production) := by
  obtain ⟨ps, -, hps, -, -⟩ := read_eq_ok.1 h
  obtain ⟨parts, rfl⟩ := exists_parts hps
  exact ⟨parts, hps, Except.ok.inj (h.symm.trans (read_piecesOf hps source))⟩

/-- **Nothing of a text is lost or told twice.**  The productions of a text that is read are, in
the order of their offsets, those of its rules and of the comments that start outside every rule; a
named one keeps the stretch of the text from the first token of its rule to the semicolon, an
anonymous one its comment without the blanks around it, and none of these stretches overlap.  What
is left of the text is layout and headers. -/
theorem read_accounts {source : Text} {g : Grammar} (h : read t source = .ok g) :
    ∃ parts spans, Accounts t parts spans ∧ g = spans.map (·.production) := by
  obtain ⟨parts, hcuts, hg⟩ := read_spansOf h
  exact ⟨parts, spansOf 0 parts, accounts_spansOf hcuts, hg⟩

/-- Comments in a header, in a rule and between them. -/
theorem read_accounts_commented :
    let t : Text := "grammar /* of */ G; // b\nr : 'x;' // c\n ;".toList
    let g : Grammar := [
      { name := none, body := "/* of */".toList, text := "/* of */".toList },
      { name := none, body := "// b".toList, text := "// b".toList },
      { name := some ['r'], body := "'x;'".toList, text := "r : 'x;' // c\n ;".toList }]
    read t = .ok g ∧ ∃ parts spans, Accounts t parts spans ∧ g = spans.map (·.production) := by
  intro t g
  have h : read t = .ok g := rfl
  exact ⟨h, read_accounts h⟩

end Concordance.Notation
