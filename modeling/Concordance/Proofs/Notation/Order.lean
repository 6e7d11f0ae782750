import Concordance.Notation.Reading
import Concordance.Proofs.Notation.Cuts

/-!
# What the order of tokens allows

The places on a right-hand side are left only through the semicolon of its rule, and colons stand
only outside of them.  So whatever the tokens between two semicolons are, there are two cases
(`statement_cases`): they are those of a rule, or those of a header.

* `Place.next?_stays`: one token on a right-hand side;
* `body_stays`: a run over a right-hand side;
* `RuleTokens.runs`: the tokens of a rule lead from between rules to between rules.
-/

namespace Concordance.Notation

variable {p p' q : Place} {k : Terminal}

/-! ## Right-hand sides -/

/-- The phases behind the colon of a rule and before its semicolon. -/
def Phase.inBody : Phase → Bool
  | .top | .topName | .headerWord | .headerName | .fragmentWord | .fragmentName => false
  | _ => true

/-- The terminals that may stand on a right-hand side. -/
def Terminal.inBody : Terminal → Bool
  | .fragment | .grammar | .colon | .semicolon => false
  | _ => true

/-- The terminal closes the rule, or it and the place behind it are on the right-hand side. -/
def Terminal.Stays (k : Terminal) (p' : Place) : Prop :=
  (k = .semicolon ∧ p' = ⟨.top, 0⟩) ∨ (k.inBody = true ∧ p'.phase.inBody = true)

theorem Place.close?_stays (h : p.close? k = some p') : k.Stays p' := by
  unfold Place.close? at h
  split at h
  · obtain rfl := Option.some.inj h
    exact Or.inr ⟨rfl, rfl⟩
  · split at h
    · exact Or.inl ⟨rfl, (Option.some.inj h).symm⟩
    · simp at h
  · split at h
    · simp at h
    · obtain rfl := Option.some.inj h
      exact Or.inr ⟨rfl, rfl⟩
  · simp at h

theorem Place.atom?_stays (h : p.atom? k = some p') : k.Stays p' := by
  cases k <;> simp [Place.atom?] at h <;> subst h <;> exact Or.inr ⟨rfl, rfl⟩

theorem Place.part?_stays (h : p.part? k = some p') : k.Stays p' := by
  unfold Place.part? at h
  split at h
  case h_4 =>
    rcases Option.or_eq_some_iff.1 h with h | ⟨-, h⟩
    · exact atom?_stays h
    · exact close?_stays h
  all_goals
    obtain rfl := Option.some.inj h
    exact Or.inr ⟨rfl, rfl⟩

theorem Place.afterAtom?_stays (h : p.afterAtom? k = some p') : k.Stays p' := by
  unfold Place.afterAtom? at h
  split at h
  case h_3 => exact part?_stays h
  all_goals
    obtain rfl := Option.some.inj h
    exact Or.inr ⟨rfl, rfl⟩

theorem Place.afterCommand?_stays (h : p.afterCommand? k = some p') : k.Stays p' := by
  unfold Place.afterCommand? at h
  split at h
  · obtain rfl := Option.some.inj h
    exact Or.inr ⟨rfl, rfl⟩
  · exact close?_stays h

/-- A token on a right-hand side closes the rule or stays on the right-hand side. -/
theorem Place.next?_stays (h : p.next? k = some p') (hp : p.phase.inBody = true) : k.Stays p' := by
  unfold Place.next? at h
  split at h
  all_goals first
    | exact part?_stays h
    | exact afterAtom?_stays h
    | exact afterCommand?_stays h
    | exact close?_stays h
    | exact atom?_stays h
    | (obtain rfl := Option.some.inj h; exact Or.inr ⟨rfl, rfl⟩)
    | simp_all [Phase.inBody]

/-- Without a semicolon a run over a right-hand side does not leave it. -/
theorem body_stays {ks : List Token} (h : orderly.Runs p ks q) (hp : p.phase.inBody = true)
    (hsemi : ∀ k ∈ ks, k.kind ≠ .semicolon) :
    q.phase.inBody = true ∧ ∀ k ∈ ks, k.kind.inBody = true := by
  induction h with
  | nil => exact ⟨hp, by simp⟩
  | @cons p p' q k ks hn _ _ _ ih =>
    have hn : p.next? k.kind = some p' := hn
    rcases Place.next?_stays hn hp with ⟨hk, -⟩ | ⟨hk, hp'⟩
    · exact absurd hk (hsemi k List.mem_cons_self)
    · obtain ⟨hq, hks⟩ := ih hp' fun j hj => hsemi j (List.mem_cons_of_mem _ hj)
      refine ⟨hq, fun j hj => ?_⟩
      rcases List.mem_cons.1 hj with rfl | hj
      · exact hk
      · exact hks j hj

/-! ## Between rules -/

theorem next?_top (h : Place.next? ⟨.top, 0⟩ k = some p') :
    (k = .name ∧ p' = ⟨.topName, 0⟩) ∨ (k = .fragment ∧ p' = ⟨.fragmentWord, 0⟩) ∨
      (k = .grammar ∧ p' = ⟨.headerWord, 0⟩) := by
  cases k <;> simp [Place.next?] at h <;> subst h <;> simp

theorem next?_topName (h : Place.next? ⟨.topName, 0⟩ k = some p') :
    (k = .colon ∧ p' = ⟨.start, 0⟩) ∨ (k = .grammar ∧ p' = ⟨.headerWord, 0⟩) := by
  cases k <;> simp [Place.next?] at h <;> subst h <;> simp

theorem next?_fragmentWord (h : Place.next? ⟨.fragmentWord, 0⟩ k = some p') :
    k = .name ∧ p' = ⟨.fragmentName, 0⟩ := by
  cases k <;> simp [Place.next?] at h
  exact ⟨rfl, h.symm⟩

theorem next?_fragmentName (h : Place.next? ⟨.fragmentName, 0⟩ k = some p') :
    k = .colon ∧ p' = ⟨.start, 0⟩ := by
  cases k <;> simp [Place.next?] at h
  exact ⟨rfl, h.symm⟩

theorem next?_headerWord (h : Place.next? ⟨.headerWord, 0⟩ k = some p') :
    k = .name ∧ p' = ⟨.headerName, 0⟩ := by
  cases k <;> simp [Place.next?] at h
  exact ⟨rfl, h.symm⟩

theorem next?_headerName (h : Place.next? ⟨.headerName, 0⟩ k = some p') :
    k = .semicolon ∧ p' = ⟨.top, 0⟩ := by
  cases k <;> simp [Place.next?] at h
  exact ⟨rfl, h.symm⟩

/-- Only a semicolon leads to a place between rules. -/
theorem eq_semicolon_of_next?_top (h : p.next? k = some p') (hp' : p'.phase = .top) :
    k = .semicolon ∧ p' = ⟨.top, 0⟩ := by
  by_cases hp : p.phase.inBody = true
  · rcases Place.next?_stays h hp with h | ⟨-, h⟩
    · exact h
    · rw [hp'] at h
      simp [Phase.inBody] at h
  · obtain ⟨ph, d⟩ := p
    cases ph <;> simp [Phase.inBody] at hp <;> cases k <;> simp [Place.next?] at h <;> subst h <;>
      simp at hp' ⊢

/-- A semicolon leads to a place between rules. -/
theorem eq_top_of_next?_semicolon (h : p.next? .semicolon = some p') : p' = ⟨.top, 0⟩ := by
  by_cases hp : p.phase.inBody = true
  · rcases Place.next?_stays h hp with ⟨-, h⟩ | ⟨h, -⟩
    · exact h
    · simp [Terminal.inBody] at h
  · obtain ⟨ph, d⟩ := p
    cases ph <;> simp [Phase.inBody] at hp <;> simp [Place.next?] at h
    exact h.symm

/-! ## Statements -/

/-- The token of a terminal that has only one spelling. -/
def Terminal.token (k : Terminal) : Token := ⟨k, k.spelling⟩

theorem Token.IsLexeme.eq_token {k : Token} {j : Terminal} (h : k.IsLexeme) (hk : k.kind = j)
    (hj : ∀ w, j.Matches w → w = j.spelling) : k = j.token := by
  obtain ⟨kind, w⟩ := k
  obtain rfl : kind = j := hk
  rw [Terminal.token, ← hj w h]

/-- The tokens of a rule. -/
structure RuleTokens where
  /-- Whether the rule is a fragment of tokens only. -/
  fragment : Bool
  /-- The name of the rule. -/
  name : Text
  /-- The right-hand side. -/
  body : List Token
  name_matches : Terminal.name.Matches name
  name_free : fragment = false →
    name ≠ Terminal.spelling .fragment ∧ name ≠ Terminal.spelling .grammar
  body_runs : ∃ q, orderly.Runs ⟨.start, 0⟩ body q ∧ q.next? .semicolon = some ⟨.top, 0⟩
  body_open : ∀ k ∈ body, k.kind ≠ .semicolon

namespace RuleTokens

/-- The tokens before the colon. -/
def front (r : RuleTokens) : List Token :=
  (if r.fragment then [Terminal.token .fragment] else []) ++ [⟨.name, r.name⟩]

/-- The tokens in order. -/
def tokens (r : RuleTokens) : List Token :=
  r.front ++ Terminal.token .colon :: (r.body ++ [Terminal.token .semicolon])

/-- The production of a rule, apart from the text it is read from. -/
def production (r : RuleTokens) : Production where
  name := some r.name
  body := canonicalBody r.body
  fragment := r.fragment

theorem front_runs (r : RuleTokens) :
    ∃ q, orderly.Runs ⟨.top, 0⟩ r.front q ∧ q.next? .colon = some ⟨.start, 0⟩ := by
  rw [front]
  cases hf : r.fragment with
  | true =>
    have hword : orderly.next? ⟨.top, 0⟩ .fragment = some ⟨.fragmentWord, 0⟩ := rfl
    have hname : orderly.next? ⟨.fragmentWord, 0⟩ .name = some ⟨.fragmentName, 0⟩ := rfl
    refine ⟨⟨.fragmentName, 0⟩, .cons hword rfl (fun h => ?_)
      (.cons hname r.name_matches (fun _ j hj ha => ?_) .nil), rfl⟩
    · simp [Terminal.token] at h
    · rcases hj with rfl | rfl <;> simp [Scanner.admits, orderly, Place.next?] at ha
  | false =>
    have hname : orderly.next? ⟨.top, 0⟩ .name = some ⟨.topName, 0⟩ := rfl
    refine ⟨⟨.topName, 0⟩, .cons hname r.name_matches (fun _ j hj _ => ?_) .nil, rfl⟩
    obtain ⟨hfragment, hgrammar⟩ := r.name_free hf
    rcases hj with rfl | rfl
    · exact hfragment
    · exact hgrammar

/-- The tokens of a rule lead from between rules to between rules. -/
theorem runs (r : RuleTokens) : orderly.Runs ⟨.top, 0⟩ r.tokens ⟨.top, 0⟩ := by
  obtain ⟨p, hfront, hcolon⟩ := r.front_runs
  obtain ⟨q, hbody, hsemi⟩ := r.body_runs
  have hend : orderly.Runs q [Terminal.token .semicolon] ⟨.top, 0⟩ :=
    .cons hsemi rfl (fun h => absurd h (by simp [Terminal.token])) .nil
  have hrest : orderly.Runs p (Terminal.token .colon :: (r.body ++ [Terminal.token .semicolon]))
      ⟨.top, 0⟩ :=
    .cons hcolon rfl (fun h => absurd h (by simp [Terminal.token])) (hbody.append hend)
  exact hfront.append hrest

end RuleTokens

/-- Tokens that end with the first semicolon behind a place. -/
def Closes (p : Place) (s : List Token) : Prop :=
  ∃ ks q, s = ks ++ [Terminal.token .semicolon] ∧ orderly.Runs p ks q ∧
    q.next? .semicolon = some ⟨.top, 0⟩ ∧ ∀ k ∈ ks, k.kind ≠ .semicolon

theorem closes_cons {s : List Token} {k : Token} (hn : p.next? k.kind = some p') (hk : k.IsLexeme)
    (hc : k.Clear (orderly.admits p)) (hsemi : k.kind ≠ .semicolon) (h : Closes p' s) :
    Closes p (k :: s) := by
  obtain ⟨ks, q, rfl, hr, hq, hks⟩ := h
  refine ⟨k :: ks, q, rfl, .cons hn hk hc hr, hq, fun j hj => ?_⟩
  rcases List.mem_cons.1 hj with rfl | hj
  · exact hsemi
  · exact hks j hj

theorem Closes.cases {s : List Token} (h : Closes p s) :
    (s = [Terminal.token .semicolon] ∧ p.next? .semicolon = some ⟨.top, 0⟩) ∨
    ∃ k s' p', s = k :: s' ∧ p.next? k.kind = some p' ∧ k.IsLexeme ∧ k.Clear (orderly.admits p) ∧
      k.kind ≠ .semicolon ∧ Closes p' s' := by
  obtain ⟨ks, q, rfl, hr, hq, hsemi⟩ := h
  cases hr with
  | nil => exact Or.inl ⟨rfl, hq⟩
  | @cons _ p' _ k ks hn hk hc hr =>
    refine Or.inr ⟨k, _, p', rfl, hn, hk, hc, hsemi k List.mem_cons_self, ks, q, rfl, hr, hq, ?_⟩
    exact fun j hj => hsemi j (List.mem_cons_of_mem _ hj)

/-- The tokens of a header. -/
structure HeaderTokens where
  /-- The name before the word that opens the header, if one stands there. -/
  qualifier : Option Text
  /-- The name behind the word. -/
  name : Text
  qualifier_matches : ∀ w ∈ qualifier, Terminal.name.Matches w
  name_matches : Terminal.name.Matches name

namespace HeaderTokens

/-- The tokens before the semicolon. -/
def front (h : HeaderTokens) : List Token :=
  (h.qualifier.map fun w => ⟨.name, w⟩).toList ++ [Terminal.token .grammar, ⟨.name, h.name⟩]

/-- The tokens in order. -/
def tokens (h : HeaderTokens) : List Token := h.front ++ [Terminal.token .semicolon]

theorem kind_of_mem_front {h : HeaderTokens} {k : Token} (hk : k ∈ h.front) :
    k.kind ≠ .colon ∧ k.kind ≠ .semicolon := by
  rw [front, List.mem_append, Option.mem_toList, Option.map_eq_some_iff] at hk
  rcases hk with ⟨w, -, rfl⟩ | hk
  · simp
  · simp only [List.mem_cons, List.not_mem_nil, or_false] at hk
    rcases hk with rfl | rfl <;> simp [Terminal.token]

/-- A header holds no colon. -/
theorem kind_ne_colon {h : HeaderTokens} {k : Token} (hk : k ∈ h.tokens) : k.kind ≠ .colon := by
  rcases List.mem_append.1 hk with hk | hk
  · exact (kind_of_mem_front hk).1
  · rw [List.mem_singleton.1 hk]
    exact nofun

end HeaderTokens

/-- Behind the word that opens a header stand a name and the semicolon. -/
theorem exists_header {s : List Token} (h : Closes ⟨.headerWord, 0⟩ s) :
    ∃ w, Terminal.name.Matches w ∧ s = [⟨.name, w⟩, Terminal.token .semicolon] := by
  rcases h.cases with ⟨-, hq⟩ | ⟨⟨kind, w⟩, s, p, rfl, hn, hk, -, -, hrest⟩
  · simp [Place.next?] at hq
  obtain ⟨hname, rfl⟩ := next?_headerWord hn
  obtain rfl : kind = .name := hname
  rcases hrest.cases with ⟨rfl, -⟩ | ⟨j, s, p, rfl, hn, -, -, hsemi, -⟩
  · exact ⟨w, hk, rfl⟩
  · exact absurd (next?_headerName hn).1 hsemi

/-- Behind a name or a word for it, a colon and a right-hand side make the tokens of a rule. -/
theorem exists_rule {f : Bool} {k c : Token} {s : List Token} (hkind : k.kind = .name)
    (hk : k.IsLexeme) (hfree : f = false → k.lexeme ≠ Terminal.spelling .fragment ∧
      k.lexeme ≠ Terminal.spelling .grammar)
    (hckind : c.kind = .colon) (hcolon : c.IsLexeme) (h : Closes ⟨.start, 0⟩ s) :
    ∃ r : RuleTokens, (if f then [Terminal.token .fragment] else []) ++ k :: c :: s =
      r.tokens := by
  obtain ⟨body, q, rfl, hr, hq, hsemi⟩ := h
  obtain rfl := hcolon.eq_token hckind fun _ h => h
  obtain ⟨kind, w⟩ := k
  obtain rfl : kind = .name := hkind
  exact ⟨⟨f, w, body, hk, hfree, ⟨q, hr, hq⟩, hsemi⟩,
    by simp [RuleTokens.tokens, RuleTokens.front]⟩

/-- The tokens of a statement are those of a rule, or those of a header. -/
theorem statement_cases {s : List Token} (h : Closes ⟨.top, 0⟩ s) :
    (∃ r : RuleTokens, s = r.tokens) ∨ ∃ h : HeaderTokens, s = h.tokens := by
  rcases h.cases with ⟨-, hq⟩ | ⟨k, s, p, rfl, hn, hk, hclear, -, hs⟩
  · simp [Place.next?] at hq
  -- A statement begins with a name, with the word for a fragment or with the word for a header; a
  -- name may stand before the word for a header too.
  rcases next?_top hn with ⟨hkind, rfl⟩ | ⟨hkind, rfl⟩ | ⟨hkind, rfl⟩
  · rcases hs.cases with ⟨-, hq⟩ | ⟨c, s, p, rfl, hn, hc, -, -, hs⟩
    · simp [Place.next?] at hq
    rcases next?_topName hn with ⟨hckind, rfl⟩ | ⟨hckind, rfl⟩
    · have hfree := fun _ : false = false =>
        And.intro (hclear hkind .fragment (Or.inl rfl) rfl)
          (hclear hkind .grammar (Or.inr rfl) rfl)
      exact Or.inl (exists_rule hkind hk hfree hckind hc hs)
    · obtain ⟨w, hw, rfl⟩ := exists_header hs
      obtain rfl := hc.eq_token hckind fun _ h => h
      obtain ⟨kind, v⟩ := k
      obtain rfl : kind = .name := hkind
      refine Or.inr ⟨⟨some v, w, fun u hu => ?_, hw⟩, rfl⟩
      obtain rfl := Option.some.inj hu
      exact hk
  · obtain rfl := hk.eq_token hkind fun _ h => h
    rcases hs.cases with ⟨-, hq⟩ | ⟨n, s, p, rfl, hn, hname, -, -, hs⟩
    · simp [Place.next?] at hq
    obtain ⟨hnkind, rfl⟩ := next?_fragmentWord hn
    rcases hs.cases with ⟨-, hq⟩ | ⟨c, s, p, rfl, hn, hc, -, -, hs⟩
    · simp [Place.next?] at hq
    obtain ⟨hckind, rfl⟩ := next?_fragmentName hn
    exact Or.inl (exists_rule (f := true) hnkind hname (by simp) hckind hc hs)
  · obtain ⟨w, hw, rfl⟩ := exists_header hs
    obtain rfl := hk.eq_token hkind fun _ h => h
    exact Or.inr ⟨⟨none, w, nofun, hw⟩, rfl⟩

end Concordance.Notation
