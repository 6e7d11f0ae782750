import Concordance.Proofs.Notation.Spelling
import Concordance.Proofs.Notation.Statements

/-!
# Serialized rules

The body of a production is written by one function and the rest of its serialized form by another;
together they spell out the tokens of the rule, without the blanks in options (`Token.normal`).

* `spell_normal_append`: on a right-hand side canonical form is the canonical tokens spelled out;
* `serialize_production`: the serialized form of a rule is its canonical tokens spelled out;
* `read_serialize_production`: it reads back as the production it was made from;
* `serialize_production_inj`: it tells rules apart by their canonical tokens.
-/

namespace Concordance.Notation

variable {p p' q : Place} {k j : Terminal} {ks : List Token}

/-! ## Canonical tokens -/

/-- A token without the blanks in its options. -/
def Token.normal (k : Token) : Token where
  kind := k.kind
  lexeme := if k.kind = .options then k.lexeme.filter fun c => !Text.isBlank c else k.lexeme

@[simp] theorem Token.normal_kind (k : Token) : k.normal.kind = k.kind := rfl

theorem Token.normal_of_ne {k : Token} (h : k.kind ≠ .options) : k.normal = k := by
  rw [normal, if_neg h]

theorem Token.IsLexeme.normal {k : Token} (h : k.IsLexeme) : k.normal.IsLexeme := by
  by_cases hk : k.kind = .options
  · obtain ⟨kind, w⟩ := k
    obtain rfl : kind = .options := hk
    obtain ⟨v, rfl, hv⟩ := h
    refine ⟨v.filter fun c => !Text.isBlank c, ?_, fun c hc => hv c (List.mem_filter.1 hc).1⟩
    have hopen : Text.isBlank '<' = false := by decide
    have hclose : Text.isBlank '>' = false := by decide
    simp [Token.normal, hopen, hclose]
  · rwa [Token.normal_of_ne hk]

theorem Token.Clear.normal {accepts : Terminal → Bool} {k : Token} (h : k.Clear accepts) :
    k.normal.Clear accepts := by
  intro hk j hj ha
  have hname : k.kind = .name := hk
  rw [Token.normal_of_ne (by rw [hname]; decide)]
  exact h hk j hj ha

theorem Token.canonical_normal (k : Token) : k.normal.canonical = k.canonical := by
  obtain ⟨kind, w⟩ := k
  cases kind <;> simp [Token.normal, Token.canonical]

theorem runs_normal (h : orderly.Runs p ks q) : orderly.Runs p (ks.map Token.normal) q := by
  induction h with
  | nil => exact .nil
  | cons hn hk hc _ ih => exact .cons hn hk.normal hc.normal ih

theorem canonicalFrom_normal (p : Place) (ks : List Token) :
    canonicalFrom p (ks.map Token.normal) = canonicalFrom p ks := by
  induction ks generalizing p with
  | nil => rfl
  | cons k ks ih =>
    rw [List.map_cons, canonicalFrom, canonicalFrom, ih, Token.canonical_normal, Token.normal_kind]

theorem spaceBefore_eq_false (h : p.next? k = some p') (hk : k.beginsPart = false) :
    p.phase.spaceBefore k = false := by
  obtain ⟨ph, d⟩ := p
  cases ph
  case command => cases k <;> contradiction
  case finished | named | literal | element | elementOptions | alternativeLabel => exact hk
  all_goals rfl

theorem gapBefore_of_ne_bar (hp : p.phase.inBody = true) (hbody : k.inBody = true ∨ k = .semicolon)
    (hbar : k ≠ .bar) : p.gapBefore k = if p.phase.spaceBefore k then [' '] else [] := by
  have hfragment : p.phase ≠ .fragmentWord := by
    intro h
    rw [h] at hp
    exact absurd hp (by decide)
  have hheader : p.phase ≠ .headerWord := by
    intro h
    rw [h] at hp
    exact absurd hp (by decide)
  have hgrammar : k ≠ .grammar := by
    rintro rfl
    exact absurd hbody (by decide)
  simp [Place.gapBefore, hfragment, hheader, hgrammar, hbar]

theorem Token.canonical_of_ne_bar {k : Token} (h : k.kind ≠ .bar) :
    k.canonical = k.normal.lexeme := by
  obtain ⟨kind, w⟩ := k
  cases kind
  case bar => exact absurd rfl h
  all_goals rfl

/-- The space before a token, its canonical form and the space behind it, on a right-hand side. -/
theorem gapBefore_append_normal {k : Token} (h : p.next? k.kind = some p') (hk : k.IsLexeme)
    (hp : p.phase.inBody = true) (hbody : k.kind.inBody = true) :
    p.gapBefore k.kind ++ k.normal.lexeme ++ k.kind.gapAfter =
      (if p.phase.spaceBefore k.kind then [' '] else []) ++ k.canonical := by
  by_cases hbar : k.kind = .bar
  · obtain rfl := hk.eq_token hbar fun _ h => h
    have hgap : p.gapBefore .bar = [' '] := by simp [Place.gapBefore]
    have hspace : p.phase.spaceBefore .bar = false := spaceBefore_eq_false h rfl
    show p.gapBefore .bar ++ _ ++ _ = (if p.phase.spaceBefore .bar then [' '] else []) ++ _
    rw [hgap, hspace]
    rfl
  · have hgap : k.kind.gapAfter = [] := by
      rcases gapAfter_cases k.kind with ⟨h, -⟩ | h
      · cases hkind : k.kind <;> rw [hkind] at h hbar hbody <;> contradiction
      · exact h
    rw [gapBefore_of_ne_bar hp (Or.inl hbody) hbar, Token.canonical_of_ne_bar hbar, hgap,
      List.append_nil]

/-- On a right-hand side canonical tokens are spelled out as canonical form has them. -/
theorem spell_normal_append (h : orderly.Runs p ks q) (hp : p.phase.inBody = true)
    (hsemi : ∀ k ∈ ks, k.kind ≠ .semicolon) (js : List Token) :
    spell p (ks.map Token.normal ++ js) = canonicalFrom p ks ++ spell q js := by
  induction h with
  | nil => rfl
  | @cons p p' q k ks hn hk _ _ ih =>
    have hn : p.next? k.kind = some p' := hn
    have hsemi' : ∀ j ∈ ks, j.kind ≠ .semicolon := fun j hj => hsemi j (List.mem_cons_of_mem _ hj)
    rcases Place.next?_stays hn hp with ⟨hk', -⟩ | ⟨hbody, hp'⟩
    · exact absurd hk' (hsemi k List.mem_cons_self)
    · rw [List.map_cons, List.cons_append, spell, Token.normal_kind, hn, Option.getD_some,
        ih hp' hsemi', canonicalFrom, hn, Option.getD_some, gapBefore_append_normal hn hk hp hbody,
        List.append_assoc _ (canonicalFrom p' ks)]

/-! ## Serialized rules -/

/-- A rule whose options hold no blanks. -/
def RuleTokens.normal (r : RuleTokens) : RuleTokens where
  fragment := r.fragment
  name := r.name
  body := r.body.map Token.normal
  name_matches := r.name_matches
  name_free := r.name_free
  body_runs := by
    obtain ⟨q, hr, hq⟩ := r.body_runs
    exact ⟨q, runs_normal hr, hq⟩
  body_open := by
    intro k hk
    obtain ⟨j, hj, rfl⟩ := List.mem_map.1 hk
    exact r.body_open j hj

theorem RuleTokens.normal_production (r : RuleTokens) : r.normal.production = r.production := by
  simp only [production, normal, canonicalBody, canonicalFrom_normal]

theorem RuleTokens.normal_tokens (r : RuleTokens) :
    r.normal.tokens = r.tokens.map Token.normal := by
  have hfront : r.front.map Token.normal = r.front := by
    rw [front]
    split <;> rfl
  rw [tokens, tokens, List.map_append, hfront, List.map_cons, List.map_append]
  rfl

theorem spell_front (r : RuleTokens) (ks : List Token) :
    spell ⟨.top, 0⟩ (r.front ++ Terminal.token .colon :: ks) =
      (if r.fragment then "fragment ".toList else []) ++ r.name ++ ": ".toList ++
        spell ⟨.start, 0⟩ ks := by
  have hword : "fragment ".toList = Terminal.spelling .fragment ++ [' '] := by decide
  rw [RuleTokens.front, hword]
  cases r.fragment
  all_goals
    simp [spell, Place.next?, Place.gapBefore, Phase.spaceBefore, Terminal.gapAfter,
      Terminal.token]
    rfl

theorem spell_semicolon (hp : p.phase.inBody = true) (h : p.next? .semicolon = some p') :
    spell p [Terminal.token .semicolon] = [';'] := by
  have hgap : p.gapBefore .semicolon = [] := by
    rw [gapBefore_of_ne_bar hp (Or.inr rfl) (by decide), spaceBefore_eq_false h rfl]
    rfl
  show p.gapBefore .semicolon ++ _ ++ _ ++ _ = _
  rw [hgap]
  rfl

/-- The serialized form of a rule is its canonical tokens spelled out. -/
theorem serialize_production (r : RuleTokens) :
    r.production.serialize = spell ⟨.top, 0⟩ r.normal.tokens := by
  obtain ⟨q, hr, hq⟩ := r.body_runs
  rw [RuleTokens.tokens, spell_front]
  show _ = _ ++ spell ⟨.start, 0⟩ (r.body.map Token.normal ++ _)
  rw [spell_normal_append hr rfl r.body_open, spell_semicolon (body_stays hr rfl r.body_open).1 hq]
  simp only [Production.serialize, RuleTokens.production, List.append_assoc]
  rfl

theorem head?_spellPieces (r : RuleTokens) :
    ∃ k, (spellPieces [] ⟨.top, 0⟩ r.tokens).head? = some (.token k) := by
  rw [RuleTokens.tokens, RuleTokens.front]
  cases r.fragment with
  | true => exact ⟨_, rfl⟩
  | false => exact ⟨_, rfl⟩

/-- The serialized form of a rule reads back as the production it was made from. -/
theorem read_serialize_production (r : RuleTokens) (source : Text) :
    read r.production.serialize source =
      .ok [{ r.production with text := r.production.serialize }] := by
  have hps : orderly.Cuts ⟨.top, 0⟩ _ _ := cuts_spell r.normal.runs rfl
  obtain ⟨qs, hqs⟩ := exists_free_cuts_spell r.normal.runs
  have hlast : r.normal.tokens.getLast? = some (Terminal.token .semicolon) := by
    rw [RuleTokens.tokens, ← List.cons_append, ← List.append_assoc, List.getLast?_concat]
  rw [← serialize_production, ← r.normal_production] at hps hqs
  rw [← r.normal_production]
  exact read_of_tokens hps hqs (tokensOf_spellPieces [] _ _) (head?_spellPieces r.normal)
    (getLast?_spellPieces [] ⟨.top, 0⟩ rfl hlast)

/-- The serialized forms of two rules are equal exactly if their canonical tokens are. -/
theorem serialize_production_inj {r₁ r₂ : RuleTokens} :
    r₁.production.serialize = r₂.production.serialize ↔ r₁.normal.tokens = r₂.normal.tokens := by
  rw [serialize_production, serialize_production]
  exact ⟨eq_of_spell_eq r₁.normal.runs r₂.normal.runs rfl rfl, congrArg _⟩

/-- The serialized form of a rule determines its name. -/
theorem name_eq_of_serialize_eq {r₁ r₂ : RuleTokens}
    (h : r₁.production.serialize = r₂.production.serialize) : r₁.name = r₂.name := by
  have hread := read_serialize_production r₁ []
  rw [h, read_serialize_production r₂ []] at hread
  have hname := congrArg (·.name) (List.singleton_inj.1 (Except.ok.inj hread))
  exact (Option.some.inj hname).symm

end Concordance.Notation
