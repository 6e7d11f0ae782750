import Concordance.Proofs.Notation.Joining
import Concordance.Proofs.Notation.Statements

/-!
# The parts of a text

The pieces of a text that follows the notation fall into parts: layout and comments between
statements, and the statements, each from its first token to its semicolon with all that stands
between them.  A statement is a rule or a header, and which of them is told by its tokens.

* `Part` carries what makes it a part, so that only the order of parts is left to be said.
* `exists_stretch`: behind any place inside a statement, the pieces up to its semicolon close it.
* `exists_parts`: the pieces of a text are those of its parts.
* `placed` gives each part its offset; `exists_placed` and `take_drop_placed` say that the parts
  leave nothing out.
-/

namespace Concordance.Notation

variable {t : Text} {p : Place} {ps : List Piece} {ks : List Token}

/-! ## Parts -/

/-- The pieces of a statement with the given tokens, from the first token to the semicolon. -/
structure Stretch (ks : List Token) where
  pieces : List Piece
  tokensOf_pieces : tokensOf pieces = ks
  head : ∃ k, pieces.head? = some (.token k)
  last : pieces.getLast? = some (.token (Terminal.token .semicolon))
  text_ne_nil : ∀ p ∈ pieces, p.text ≠ []

/-- The text of a statement. -/
def Stretch.text (s : Stretch ks) : Text := textOf s.pieces

/-- A part of a text. -/
inductive Part where
  /-- Layout between statements. -/
  | layout (w : Text) (ne_nil : w ≠ []) (isLayout : ∀ c ∈ w, isLayout c = true)
  /-- A comment between statements. -/
  | comment (w : Text) (ne_nil : w ≠ [])
  /-- A rule. -/
  | rule (r : RuleTokens) (s : Stretch r.tokens)
  /-- A header. -/
  | header (h : HeaderTokens) (s : Stretch h.tokens)

variable {parts : List Part}

namespace Part

/-- The pieces of a part. -/
def pieces : Part → List Piece
  | .layout w _ _ => [.layout w]
  | .comment w _ => [.comment w]
  | .rule _ s => s.pieces
  | .header _ s => s.pieces

/-- The text of a part. -/
def text (p : Part) : Text := textOf p.pieces

theorem text_ne_nil (p : Part) : ∀ q ∈ p.pieces, q.text ≠ [] := by
  cases p with
  | layout w hne | comment w hne => exact List.forall_mem_singleton.2 hne
  | rule r s | header h s => exact s.text_ne_nil

end Part

/-- The pieces of parts. -/
def piecesOf (parts : List Part) : List Piece := parts.flatMap Part.pieces

theorem piecesOf_cons (p : Part) (parts : List Part) :
    piecesOf (p :: parts) = p.pieces ++ piecesOf parts :=
  rfl

theorem textOf_piecesOf_cons (p : Part) (parts : List Part) :
    textOf (piecesOf (p :: parts)) = p.text ++ textOf (piecesOf parts) :=
  textOf_append _ _

/-! ## The parts of a text -/

/-- Behind a place inside a statement there is a semicolon, and what stands before it closes the
statement. -/
theorem exists_stretch (h : orderly.Cuts p t ps) (hp : p.phase ≠ .top) :
    ∃ front rest u, ps = front ++ .token (Terminal.token .semicolon) :: rest ∧
      Closes p (tokensOf front ++ [Terminal.token .semicolon]) ∧
      orderly.Cuts ⟨.top, 0⟩ u rest := by
  induction h with
  | done hend => exact absurd (beq_iff_eq.1 hend) hp
  | @token p p' t r k ps hread hs hrest ih =>
    have hn : p.next? k.kind = some p' := hs
    obtain ⟨hk, -, -, hclear, -⟩ := of_piece?_token hread
    by_cases hsemi : k.kind = .semicolon
    · rw [hsemi] at hn
      obtain rfl := eq_top_of_next?_semicolon hn
      obtain rfl := hk.eq_token hsemi fun _ h => h
      exact ⟨[], ps, r, rfl, ⟨[], p, rfl, .nil, hn, nofun⟩, hrest⟩
    · have hp' : p'.phase ≠ .top := fun htop => hsemi (eq_semicolon_of_next?_top hn htop).1
      obtain ⟨front, rest, u, rfl, hcloses, hu⟩ := ih hp'
      exact ⟨.token k :: front, rest, u, rfl, closes_cons hn hk hclear hsemi hcloses, hu⟩
  | @skip p t r q ps hq _ _ ih =>
    obtain ⟨front, rest, u, rfl, hcloses, hu⟩ := ih hp
    refine ⟨q :: front, rest, u, rfl, ?_, hu⟩
    rwa [tokensOf_skip hq]

/-- The pieces of a statement are those of a part. -/
theorem exists_part {front : List Piece} {k : Token}
    (h : Closes ⟨.top, 0⟩ (k :: (tokensOf front ++ [Terminal.token .semicolon])))
    (hne : ∀ q ∈ .token k :: (front ++ [.token (Terminal.token .semicolon)]), q.text ≠ []) :
    ∃ part : Part, part.pieces = .token k :: (front ++ [.token (Terminal.token .semicolon)]) := by
  have htokens : tokensOf (.token k :: (front ++ [.token (Terminal.token .semicolon)])) =
      k :: (tokensOf front ++ [Terminal.token .semicolon]) := by
    rw [tokensOf_token, tokensOf, List.filterMap_append]
    rfl
  have hlast : (.token k :: (front ++ [.token (Terminal.token .semicolon)])).getLast? =
      some (.token (Terminal.token .semicolon)) := by
    rw [← List.cons_append, List.getLast?_concat]
  rcases statement_cases h with ⟨r, hr⟩ | ⟨header, hheader⟩
  · exact ⟨.rule r ⟨_, htokens.trans hr, ⟨k, rfl⟩, hlast, hne⟩, rfl⟩
  · exact ⟨.header header ⟨_, htokens.trans hheader, ⟨k, rfl⟩, hlast, hne⟩, rfl⟩

theorem exists_parts (h : orderly.Cuts ⟨.top, 0⟩ t ps) :
    ∃ parts : List Part, piecesOf parts = ps := by
  -- A whole statement is taken from the front, so the induction is on the number of pieces.
  induction hlength : ps.length using Nat.strongRecOn generalizing t ps with
  | ind n ih =>
    have hne := h.text_ne_nil
    cases h with
    | done => exact ⟨[], rfl⟩
    | @skip _ _ r q ps hq hread hrest =>
      obtain ⟨parts, rfl⟩ := ih ps.length (by rw [← hlength, List.length_cons]; omega) hrest rfl
      have hq' : q.text ≠ [] := hne q List.mem_cons_self
      cases q with
      | layout w => exact ⟨.layout w hq' (forall_isLayout_of_piece? hread) :: parts, rfl⟩
      | comment w => exact ⟨.comment w hq' :: parts, rfl⟩
      | token k => cases hq
    | @token _ p' _ r k ps hread hs hrest =>
      have hn : Place.next? ⟨.top, 0⟩ k.kind = some p' := hs
      obtain ⟨hk, -, -, hclear, -⟩ := of_piece?_token hread
      have hsemi : k.kind ≠ .semicolon := by
        intro hsemi
        rw [hsemi] at hn
        cases hn
      have hp' : p'.phase ≠ .top := fun htop => hsemi (eq_semicolon_of_next?_top hn htop).1
      obtain ⟨front, rest, u, rfl, hcloses, hu⟩ := exists_stretch hrest hp'
      have hshorter : rest.length < n := by
        simp only [List.length_cons, List.length_append] at hlength
        omega
      obtain ⟨parts, hparts⟩ := ih rest.length hshorter hu rfl
      have hfront : ∀ q ∈ .token k :: (front ++ [.token (Terminal.token .semicolon)]),
          q.text ≠ [] := by
        intro q hq
        refine hne q ?_
        simp only [List.mem_cons, List.mem_append, List.not_mem_nil, or_false] at hq ⊢
        tauto
      obtain ⟨part, hpart⟩ := exists_part (closes_cons hn hk hclear hsemi hcloses) hfront
      refine ⟨part :: parts, ?_⟩
      rw [piecesOf_cons, hpart, hparts]
      simp

/-! ## Where the parts stand -/

/-- Each part with the offset at which it starts. -/
def placed : Nat → List Part → List (Nat × Part)
  | _, [] => []
  | o, p :: parts => (o, p) :: placed (o + p.text.length) parts

/-- The text of a part stands at its offset. -/
theorem take_drop_placed (before : Text) {x : Nat × Part} (hx : x ∈ placed before.length parts) :
    ((before ++ textOf (piecesOf parts)).drop x.1).take x.2.text.length = x.2.text := by
  induction parts generalizing before with
  | nil => cases hx
  | cons p parts ih =>
    rw [textOf_piecesOf_cons]
    rcases List.mem_cons.1 hx with rfl | hx
    · rw [List.drop_left, List.take_left]
    · rw [← List.append_assoc]
      rw [← List.length_append] at hx
      exact ih _ hx

/-- Every character of a text stands in one of its parts. -/
theorem exists_placed {u : Text} {i o : Nat} {c : Char} (hu : textOf (piecesOf parts) = u)
    (hc : u[i]? = some c) :
    ∃ x ∈ placed o parts, x.1 ≤ o + i ∧ o + i < x.1 + x.2.text.length ∧ c ∈ x.2.text := by
  induction parts generalizing u i o with
  | nil =>
    subst hu
    cases hc
  | cons p parts ih =>
    rw [textOf_piecesOf_cons] at hu
    subst hu
    by_cases hi : i < p.text.length
    · rw [List.getElem?_append_left hi] at hc
      exact ⟨(o, p), List.mem_cons_self, Nat.le_add_right o i, Nat.add_lt_add_left hi o,
        List.mem_of_getElem? hc⟩
    · rw [List.getElem?_append_right (Nat.not_lt.1 hi)] at hc
      obtain ⟨x, hx, hfirst, hlast, hmem⟩ := ih (o := o + p.text.length) rfl hc
      exact ⟨x, List.mem_cons_of_mem _ hx, by omega, by omega, hmem⟩

end Concordance.Notation
