import Concordance.Proofs.Agreement.Named
import Concordance.Proofs.Notation.Order
import Mathlib.Data.List.TakeDrop
import Mathlib.Data.List.TakeWhile

/-!
# The statements of a text

A text that the reader accepts falls into statements, and each of them is a rule or states nothing:

* `statements_closes`: every statement ends with its first semicolon;
* `rule?_of_tokens` and `rule?_eq_none`: what production a statement states;
* `named_read`: the named productions of a text that is read are those of its statements;
* `read_of_tokens`: a text that holds the tokens of one rule and no layout around them is read as
  the production of that rule.
-/

namespace Concordance.Notation

open Grammar (named)

variable {t : Text} {r : RuleTokens} {s : Tokens}

/-! ## Located tokens -/

theorem tokens_locate (o : Nat) (ps : List Piece) :
    (tokens (locate o ps)).map (·.2) = tokensOf ps := by
  induction ps generalizing o with
  | nil => rfl
  | cons p ps ih =>
    cases p with
    | layout w | comment w => exact ih _
    | token k => exact congrArg (k :: ·) (ih _)

theorem statements_of_open {ks : Tokens} {k : Nat × Token} (hks : ∀ j ∈ ks, j.2.kind ≠ .semicolon)
    (hk : k.2.kind = .semicolon) : statements (ks ++ [k]) = [ks ++ [k]] := by
  induction ks with
  | nil => simp [statements, hk]
  | cons j ks ih =>
    rw [List.cons_append, statements, if_neg (hks j List.mem_cons_self),
      ih fun i hi => hks i (List.mem_cons_of_mem _ hi)]

/-- Behind any place each statement ends with its first semicolon. -/
theorem statements_closes {ks : Tokens} {p q : Place} (h : orderly.Runs p (ks.map (·.2)) q)
    (hq : q.phase = .top) :
    ks = [] ∨ ∃ s ss, statements ks = s :: ss ∧ Closes p (s.map (·.2)) ∧
      ∀ s ∈ ss, Closes ⟨.top, 0⟩ (s.map (·.2)) := by
  induction ks generalizing p with
  | nil => exact Or.inl rfl
  | cons k ks ih =>
    obtain _ | @⟨_, p', _, _, _, hn, hk, hc, hr⟩ := h
    refine Or.inr ?_
    by_cases hsemi : k.2.kind = .semicolon
    · rw [hsemi] at hn
      obtain rfl := eq_top_of_next?_semicolon hn
      have hsingle : Closes p ([k].map (·.2)) := by
        refine ⟨[], p, ?_, .nil, hn, by simp⟩
        rw [← hk.eq_token hsemi fun _ h => h]
        rfl
      refine ⟨[k], statements ks, by rw [statements, if_pos hsemi], hsingle, ?_⟩
      rcases ih hr with rfl | ⟨s, ss, hs, hfirst, hothers⟩
      · simp [statements]
      · rw [hs]
        intro s' hs'
        rcases List.mem_cons.1 hs' with rfl | hs'
        · exact hfirst
        · exact hothers s' hs'
    · -- Only a semicolon leads to a place between rules, so `k` is not the last token.
      rcases ih hr with rfl | ⟨s, ss, hs, hfirst, hothers⟩
      · cases hr
        exact absurd (eq_semicolon_of_next?_top hn hq).1 hsemi
      · exact ⟨k :: s, ss, by rw [statements, if_neg hsemi, hs], closes_cons hn hk hc hsemi hfirst,
          hothers⟩

/-! ## Rules -/

theorem rule?_eq_none (h : ∀ k ∈ s, k.2.kind ≠ .colon) : rule? t s = none := by
  have hback : s.dropWhile (fun k => k.2.kind != .colon) = [] := by
    rw [List.dropWhile_eq_nil_iff]
    exact fun k hk => bne_iff_ne.2 (h k hk)
  simp [rule?, List.span_eq_takeWhile_dropWhile, hback]

theorem RuleTokens.kind_of_mem_front {k : Token} (h : k ∈ r.front) :
    k.kind ≠ .colon ∧ k.kind ≠ .semicolon := by
  rw [front, List.mem_append] at h
  rcases h with h | h
  · split at h
    · obtain rfl := List.mem_singleton.1 h
      simp [Terminal.token]
    · simp at h
  · obtain rfl := List.mem_singleton.1 h
    simp

/-- Located tokens of a rule: those before the colon, the colon, the right-hand side and the
semicolon. -/
theorem exists_parts_of_tokens (h : s.map (·.2) = r.tokens) :
    ∃ front colon body semi, s = front ++ colon :: (body ++ [semi]) ∧ front.map (·.2) = r.front ∧
      colon.2 = Terminal.token .colon ∧ body.map (·.2) = r.body ∧
      semi.2 = Terminal.token .semicolon := by
  obtain ⟨front, rest, rfl, hfront, hrest⟩ := List.map_eq_append_iff.1 h
  obtain ⟨colon, rest, rfl, hcolon, hrest⟩ := List.map_eq_cons_iff.1 hrest
  obtain ⟨body, rest, rfl, hbody, hrest⟩ := List.map_eq_append_iff.1 hrest
  obtain ⟨semi, rfl, hsemi⟩ := List.map_eq_singleton_iff.1 hrest
  exact ⟨front, colon, body, semi, rfl, hfront, hcolon, hbody, hsemi⟩

theorem statements_of_tokens (h : s.map (·.2) = r.tokens) : statements s = [s] := by
  obtain ⟨front, colon, body, semi, rfl, hfront, hcolon, hbody, hsemi⟩ := exists_parts_of_tokens h
  rw [← List.cons_append, ← List.append_assoc]
  refine statements_of_open (fun k hk => ?_) (by rw [hsemi]; rfl)
  rcases List.mem_append.1 hk with hk | hk
  · exact (RuleTokens.kind_of_mem_front (hfront ▸ List.mem_map_of_mem hk)).2
  rcases List.mem_cons.1 hk with rfl | hk
  · simp [hcolon, Terminal.token]
  · exact r.body_open _ (hbody ▸ List.mem_map_of_mem hk)

theorem rule?_append {front body : Tokens} {first name colon semi : Nat × Token}
    (hfront : ∀ k ∈ front, k.2.kind ≠ .colon) (hcolon : colon.2.kind = .colon)
    (hfirst : front.head? = some first) (hname : front.getLast? = some name) :
    rule? t (front ++ colon :: (body ++ [semi])) = some {
      start := first.1
      stop := semi.1 + 1
      production := {
        name := some name.2.lexeme
        body := canonicalBody (body.map (·.2))
        text := (t.drop first.1).take (semi.1 + 1 - first.1)
        fragment := first.2.kind == .fragment } } := by
  have hpos : ∀ k ∈ front, (k.2.kind != .colon) = true := fun k hk => bne_iff_ne.2 (hfront k hk)
  have hspan : (front ++ colon :: (body ++ [semi])).span (fun k => k.2.kind != .colon) =
      (front, colon :: (body ++ [semi])) := by
    rw [List.span_eq_takeWhile_dropWhile, List.takeWhile_append_of_pos hpos,
      List.dropWhile_append_of_pos hpos]
    simp [hcolon]
  have hlast : (front ++ colon :: (body ++ [semi])).getLast? = some semi := by
    rw [← List.cons_append, ← List.append_assoc, List.getLast?_concat]
  have hbody : ((body ++ [semi]).dropLast).map (·.2) = body.map (·.2) := by
    rw [List.dropLast_concat]
  rw [rule?, hspan, hlast, ← hbody]
  simp only [hfirst, hname, List.drop_succ_cons, List.drop_zero]
  cases body <;> rfl

/-- The tokens before the colon begin with the name, or with the word before it. -/
theorem ends_of_front {front : Tokens} (h : front.map (·.2) = r.front) :
    ∃ first name, front.head? = some first ∧ front.getLast? = some name ∧
      name.2.lexeme = r.name ∧ (first.2.kind == .fragment) = r.fragment := by
  rw [RuleTokens.front] at h
  cases hf : r.fragment with
  | true =>
    rw [hf] at h
    obtain ⟨first, rest, rfl, hfirst, hrest⟩ := List.map_eq_cons_iff.1 h
    obtain ⟨name, rfl, hname⟩ := List.map_eq_singleton_iff.1 hrest
    exact ⟨first, name, rfl, rfl, by rw [hname], by rw [hfirst]; rfl⟩
  | false =>
    rw [hf] at h
    obtain ⟨name, rfl, hname⟩ := List.map_eq_singleton_iff.1 h
    exact ⟨name, name, rfl, rfl, by rw [hname], by rw [hname]; rfl⟩

/-- A statement that holds the tokens of a rule states its production, and the stretch it is read
from reaches from its first token to its semicolon. -/
theorem rule?_of_tokens (h : s.map (·.2) = r.tokens) :
    ∃ a b, s.head?.map (·.1) = some a ∧ s.getLast?.map (·.1) = some b ∧
      rule? t s = some ⟨a, b + 1, { r.production with text := (t.drop a).take (b + 1 - a) }⟩ := by
  obtain ⟨front, colon, body, semi, rfl, hfront, hcolon, hbody, hsemi⟩ := exists_parts_of_tokens h
  obtain ⟨first, name, hfirst, hname, hlexeme, hkind⟩ := ends_of_front hfront
  have hopen : ∀ k ∈ front, k.2.kind ≠ .colon := fun k hk =>
    (RuleTokens.kind_of_mem_front (hfront ▸ List.mem_map_of_mem hk)).1
  have hckind : colon.2.kind = .colon := by rw [hcolon]; rfl
  refine ⟨first.1, semi.1, ?_, ?_, ?_⟩
  · rw [List.head?_append, hfirst]
    rfl
  · rw [← List.cons_append, ← List.append_assoc, List.getLast?_concat]
    rfl
  · rw [rule?_append hopen hckind hfirst hname, hlexeme, hkind, hbody]
    rfl

/-! ## Reading -/

theorem named_insertSpan {c : Span} (hc : c.production.name = none) (spans : List Span) :
    named ((insertSpan c spans).map (·.production)) = named (spans.map (·.production)) := by
  induction spans with
  | nil => simp [insertSpan, named, hc]
  | cons r rs ih =>
    rw [insertSpan]
    split
    · simp [named, hc]
    · simp only [named, List.map_cons, List.filter_cons] at ih ⊢
      rw [ih]

theorem named_foldl_insertSpan {cs : List Span} (hcs : ∀ c ∈ cs, c.production.name = none)
    (spans : List Span) :
    named ((cs.foldl (fun spans s => insertSpan s spans) spans).map (·.production)) =
      named (spans.map (·.production)) := by
  induction cs generalizing spans with
  | nil => rfl
  | cons c cs ih =>
    rw [List.foldl_cons, ih fun d hd => hcs d (List.mem_cons_of_mem _ hd),
      named_insertSpan (hcs c List.mem_cons_self)]

theorem insertSpan_perm (s : Span) (spans : List Span) :
    (insertSpan s spans).Perm (s :: spans) := by
  induction spans with
  | nil => exact .refl _
  | cons r rs ih =>
    rw [insertSpan]
    split
    · exact .refl _
    · exact (ih.cons r).trans (.swap s r rs)

/-- Putting stretches in loses none of them. -/
theorem foldl_insertSpan_perm (cs spans : List Span) :
    (cs.foldl (fun spans s => insertSpan s spans) spans).Perm (cs ++ spans) := by
  induction cs generalizing spans with
  | nil => exact .refl _
  | cons c cs ih =>
    exact (ih _).trans (((insertSpan_perm c spans).append_left cs).trans List.perm_middle)

theorem name_of_mem_commentsOutside {spans : List Span} {ps : List (Nat × Piece)} {c : Span}
    (h : c ∈ commentsOutside spans ps) : c.production.name = none := by
  obtain ⟨⟨o, p⟩, -, hp⟩ := List.mem_filterMap.1 h
  cases p with
  | layout w | token k => simp at hp
  | comment w =>
    simp only at hp
    split at hp
    · simp at hp
    · obtain rfl := Option.some.inj hp
      rfl

/-- What a successful reading consists of. -/
theorem read_eq_ok {source : Text} {g : Grammar} :
    read t source = .ok g ↔ ∃ ps qs, orderly.Cuts ⟨.top, 0⟩ t ps ∧ free.Cuts () t qs ∧
      ((commentsOutside (rules t (locate 0 ps)) (locate 0 qs)).foldl
        (fun spans s => insertSpan s spans) (rules t (locate 0 ps))).map (·.production) = g := by
  simp only [← pieces_eq_ok]
  cases horderly : orderly.pieces ⟨.top, 0⟩ t with
  | error o => simp [read, horderly]
  | ok ps => cases hfree : free.pieces () t <;> simp [read, horderly, hfree]

/-- The statements of a text that a scan cuts. -/
theorem rules_cases {ps : List Piece} (h : orderly.Cuts ⟨.top, 0⟩ t ps) :
    ∀ s ∈ statements (tokens (locate 0 ps)),
      (∃ r : RuleTokens, s.map (·.2) = r.tokens) ∨ rule? t s = none := by
  obtain ⟨q, hend, hr⟩ := h.runs
  rw [← tokens_locate 0] at hr
  have hq : q.phase = .top := by simpa [orderly] using hend
  intro s hs
  have hcloses : Closes ⟨.top, 0⟩ (s.map (·.2)) := by
    rcases statements_closes hr hq with hnil | ⟨s₁, ss, hss, hfirst, hothers⟩
    · rw [hnil] at hs
      simp [statements] at hs
    · rw [hss] at hs
      rcases List.mem_cons.1 hs with rfl | hs
      · exact hfirst
      · exact hothers s hs
  rcases statement_cases hcloses with hrule | ⟨header, hheader⟩
  · exact Or.inl hrule
  · refine Or.inr (rule?_eq_none fun k hk => ?_)
    exact HeaderTokens.kind_ne_colon (hheader ▸ List.mem_map_of_mem hk)

theorem production_of_mem_rules {ps : List Piece} (h : orderly.Cuts ⟨.top, 0⟩ t ps) {c : Span}
    (hc : c ∈ rules t (locate 0 ps)) :
    ∃ (r : RuleTokens) (w : Text), c.production = { r.production with text := w } := by
  obtain ⟨s, hs, hrule⟩ := List.mem_filterMap.1 hc
  rcases rules_cases h s hs with ⟨r, hr⟩ | hnone
  · obtain ⟨a, b, -, -, hsome⟩ := rule?_of_tokens (t := t) hr
    obtain rfl := Option.some.inj (hsome.symm.trans hrule)
    exact ⟨r, _, rfl⟩
  · rw [hnone] at hrule
    simp at hrule

/-- The named productions of a text that is read are those its statements state. -/
theorem named_read {source : Text} {g : Grammar} (h : read t source = .ok g) :
    ∃ ps, orderly.Cuts ⟨.top, 0⟩ t ps ∧ named g = (rules t (locate 0 ps)).map (·.production) := by
  obtain ⟨ps, qs, hps, -, rfl⟩ := read_eq_ok.1 h
  refine ⟨ps, hps, ?_⟩
  rw [named_foldl_insertSpan fun c hc => name_of_mem_commentsOutside hc, named,
    List.filter_eq_self]
  intro p hp
  obtain ⟨c, hc, rfl⟩ := List.mem_map.1 hp
  obtain ⟨r, w, hr⟩ := production_of_mem_rules hps hc
  rw [hr]
  rfl

/-- A named production that is read is that of some rule's tokens. -/
theorem exists_tokens_of_mem_read {source : Text} {g : Grammar} {p : Production}
    (h : read t source = .ok g) (hp : p ∈ g) (hname : p.name.isSome = true) :
    ∃ (r : RuleTokens) (w : Text), p = { r.production with text := w } := by
  obtain ⟨ps, hps, hg⟩ := named_read h
  have hmem : p ∈ named g := List.mem_filter.2 ⟨hp, hname⟩
  rw [hg] at hmem
  obtain ⟨c, hc, rfl⟩ := List.mem_map.1 hmem
  exact production_of_mem_rules hps hc

theorem locate_append (o : Nat) (ps qs : List Piece) :
    locate o (ps ++ qs) = locate o ps ++ locate (o + (textOf ps).length) qs := by
  induction ps generalizing o with
  | nil => rfl
  | cons p ps ih =>
    rw [List.cons_append, locate, locate, ih, textOf_cons, List.length_append, Nat.add_assoc]
    rfl

/-- A located piece lies between the offset of the first one and the end of them all. -/
theorem of_mem_locate {ps : List Piece} {o : Nat} {x : Nat × Piece} (hx : x ∈ locate o ps) :
    x.2 ∈ ps ∧ o ≤ x.1 ∧ x.1 + x.2.text.length ≤ o + (textOf ps).length := by
  induction ps generalizing o with
  | nil => simp [locate] at hx
  | cons p ps ih =>
    rw [textOf_cons, List.length_append]
    rcases List.mem_cons.1 hx with rfl | hx
    · exact ⟨List.mem_cons_self, Nat.le_refl _, Nat.add_le_add_left (Nat.le_add_right _ _) o⟩
    · obtain ⟨hmem, hfirst, hlast⟩ := ih hx
      exact ⟨List.mem_cons_of_mem _ hmem, by omega, by omega⟩

/-- Comments that start within a stretch are not kept. -/
theorem commentsOutside_eq_nil {σ : Type} {m : Scanner σ} {a : σ} {qs : List Piece} {c : Span}
    (h : m.Cuts a t qs) (hstart : c.start = 0) (hstop : c.stop = t.length) :
    commentsOutside [c] (locate 0 qs) = [] := by
  rw [commentsOutside, List.filterMap_eq_nil_iff]
  rintro ⟨o, p⟩ hp
  obtain ⟨hmem, -, hlast⟩ := of_mem_locate hp
  rw [h.textOf, Nat.zero_add] at hlast
  have hpos := List.length_pos_iff.2 (h.text_ne_nil p hmem)
  have ho : o < t.length := Nat.lt_of_lt_of_le (Nat.lt_add_of_pos_right hpos) hlast
  cases p <;> simp [hstart, hstop, ho]

theorem getLast?_tokens_locate (o : Nat) (ps : List Piece) (k : Token) :
    (tokens (locate o (ps ++ [.token k]))).getLast? = some (o + (textOf ps).length, k) := by
  rw [locate_append, tokens, List.filterMap_append, locate, locate]
  exact List.getLast?_concat

/-- A text that consists of the tokens of one rule, first and last included, is read as its
production. -/
theorem read_of_tokens {source : Text} {ps qs : List Piece} (hps : orderly.Cuts ⟨.top, 0⟩ t ps)
    (hqs : free.Cuts () t qs) (htokens : tokensOf ps = r.tokens)
    (hfirst : ∃ k, ps.head? = some (.token k))
    (hlast : ps.getLast? = some (.token (Terminal.token .semicolon))) :
    read t source = .ok [{ r.production with text := t }] := by
  rw [← tokens_locate 0] at htokens
  obtain ⟨a, b, ha, hb, hrule⟩ := rule?_of_tokens (t := t) htokens
  -- The stretch of the rule is the whole text: it begins with a token, and its semicolon ends it.
  have ha : a = 0 := by
    obtain ⟨k, hk⟩ := hfirst
    obtain ⟨ps, rfl⟩ := List.head?_eq_some_iff.1 hk
    simpa [locate, tokens, eq_comm] using ha
  have hb : b + 1 = t.length := by
    obtain ⟨ps₀, rfl⟩ := List.getLast?_eq_some_iff.1 hlast
    rw [getLast?_tokens_locate, Nat.zero_add] at hb
    obtain rfl := Option.some.inj hb
    rw [← hps.textOf, textOf_append, List.length_append]
    rfl
  have hspans : rules t (locate 0 ps) = [⟨0, t.length, { r.production with text := t }⟩] := by
    rw [rules, statements_of_tokens htokens, List.filterMap_cons_some hrule, ha, hb]
    simp
  rw [read_eq_ok]
  refine ⟨ps, qs, hps, hqs, ?_⟩
  rw [hspans, commentsOutside_eq_nil hqs rfl rfl]
  rfl

end Concordance.Notation
