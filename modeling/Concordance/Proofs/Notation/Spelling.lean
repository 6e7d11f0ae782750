import Concordance.Proofs.Notation.Order

/-!
# Tokens spelled out

Canonical form writes tokens one after the other and puts a space where `Place.gapBefore` and
`Terminal.gapAfter` say so.  What is written this way is cut back into the same tokens:

* `glues_eq_false`: two tokens that follow each other with no space between them do not glue;
* `wellSpaced_spellPieces`: so tokens in an order that the notation allows are well spaced;
* `cuts_spell` and `eq_of_spell_eq`: what they are spelled out as is cut into them, and into
  nothing else.
-/

namespace Concordance.Notation

variable {p p' q : Place} {k j : Terminal} {ks : List Token}

/-! ## Gaps -/

/-- The space before a token. -/
def Place.gapBefore (p : Place) (k : Terminal) : Text :=
  if p.phase.spaceBefore k || p.phase == .fragmentWord || p.phase == .headerWord ||
    k == .grammar || k == .bar then [' '] else []

/-- The space behind a token. -/
def Terminal.gapAfter : Terminal → Text
  | .colon | .bar => [' ']
  | _ => []

theorem Place.gapBefore_cases (p : Place) (k : Terminal) :
    p.gapBefore k = [' '] ∨ p.gapBefore k = [] := by
  rw [gapBefore]
  split
  · exact Or.inl rfl
  · exact Or.inr rfl

theorem isLayout_of_mem_gapBefore {c : Char} (h : c ∈ p.gapBefore k) : isLayout c = true := by
  rcases p.gapBefore_cases k with hgap | hgap <;> rw [hgap] at h
  · obtain rfl := List.mem_singleton.1 h
    rfl
  · simp at h

theorem gapAfter_cases (k : Terminal) :
    (k.gapAfter = [' '] ∧ ∀ c, k.glues c = false) ∨ k.gapAfter = [] := by
  cases k
  case colon | bar => exact Or.inl ⟨rfl, fun _ => rfl⟩
  all_goals exact Or.inr rfl

theorem isLayout_of_mem_gapAfter {c : Char} (h : c ∈ k.gapAfter) : isLayout c = true := by
  rcases gapAfter_cases k with ⟨hgap, -⟩ | hgap <;> rw [hgap] at h
  · obtain rfl := List.mem_singleton.1 h
    rfl
  · simp at h

theorem glues_space (k : Terminal) : k.glues ' ' = false := by
  cases k <;> rfl

/-! ## Tokens that follow each other -/

/-- The phases behind a token that may glue to the next one. -/
def Terminal.leadsTo : Terminal → Phase → Bool
  | .name, ph => [Phase.topName, .headerName, .fragmentName, .element, .named, .alternativeLabel,
      .commandName, .argumentName].contains ph
  | .fragment, ph => ph == .fragmentWord
  | .grammar, ph => ph == .headerWord
  | .suffix, ph => ph == .finished
  | .dot, ph => ph == .element
  | _, _ => true

theorem leadsTo_of_next? (h : p.next? k = some p') : k.leadsTo p'.phase = true := by
  obtain ⟨ph, d⟩ := p
  cases k
  case name | fragment | grammar | suffix | dot =>
    cases ph <;> simp [Place.next?, Place.part?, Place.afterAtom?, Place.afterCommand?,
      Place.atom?, Place.close?] at h <;> subst h <;> rfl
  all_goals rfl

/-- Behind a name no word stands without a space. -/
theorem isSign_of_behind_name (hp : Terminal.name.leadsTo p.phase = true)
    (h : (p.next? j).isSome = true) (hgap : p.gapBefore j = []) : j.IsSign := by
  obtain ⟨ph, d⟩ := p
  refine ⟨?_, ?_, ?_⟩ <;> rintro rfl <;> cases ph <;>
    simp [Terminal.leadsTo, Place.gapBefore, Phase.spaceBefore, Terminal.beginsPart, Place.next?,
      Place.part?, Place.afterAtom?, Place.afterCommand?, Place.atom?, Place.close?] at hp h hgap

/-- Behind a suffix stands neither another one nor the sign of a label. -/
theorem of_behind_suffix {d : Nat} (h : (Place.next? ⟨.finished, d⟩ j).isSome = true) :
    j ≠ .suffix ∧ j ≠ .labelOp := by
  refine ⟨?_, ?_⟩ <;> rintro rfl <;> simp [Place.next?, Place.part?, Place.atom?,
    Place.close?] at h

/-- Behind a dot no other one stands without a space. -/
theorem of_behind_dot {d : Nat} (h : (Place.next? ⟨.element, d⟩ j).isSome = true)
    (hgap : Place.gapBefore ⟨.element, d⟩ j = []) : j ≠ .dot ∧ j ≠ .dots := by
  refine ⟨?_, ?_⟩ <;> rintro rfl
  · simp [Place.gapBefore, Phase.spaceBefore, Terminal.beginsPart] at hgap
  · simp [Place.next?, Place.afterAtom?, Place.part?, Place.atom?, Place.close?] at h

/-- Two tokens that follow each other with no space between them do not glue. -/
theorem glues_eq_false {c : Char} (h : p.next? k = some p') (h' : (p'.next? j).isSome = true)
    (hgap : p'.gapBefore j = []) (hc : j.opens c = true) : k.glues c = false := by
  have hlead := leadsTo_of_next? h
  obtain ⟨ph, d⟩ := p'
  -- Only five terminals glue to anything, and each leads to places where what it glues to may not
  -- stand or has a space before it.
  cases k
  case name => exact not_isNameChar_of_opens (isSign_of_behind_name hlead h' hgap) hc
  case fragment | grammar =>
    obtain rfl : ph = _ := beq_iff_eq.1 hlead
    simp [Place.gapBefore] at hgap
  case suffix =>
    obtain rfl : ph = _ := beq_iff_eq.1 hlead
    obtain ⟨hsuffix, hlabel⟩ := of_behind_suffix h'
    rw [Terminal.glues, Bool.or_eq_false_iff, beq_eq_false_iff_ne, beq_eq_false_iff_ne]
    refine ⟨?_, ?_⟩ <;> rintro rfl <;> cases j <;> contradiction
  case dot =>
    obtain rfl : ph = _ := beq_iff_eq.1 hlead
    obtain ⟨hdot, hdots⟩ := of_behind_dot h' hgap
    rw [Terminal.glues, beq_eq_false_iff_ne]
    rintro rfl
    cases j <;> contradiction
  all_goals rfl

/-! ## Spelled tokens -/

/-- A stretch of layout, if it is not empty. -/
def layoutPiece (w : Text) : List Piece := if w = [] then [] else [.layout w]

/-- The pieces of tokens spelled out behind a place and some layout. -/
def spellPieces (w : Text) (p : Place) : List Token → List Piece
  | [] => layoutPiece w
  | k :: ks =>
    layoutPiece (w ++ p.gapBefore k.kind) ++
      .token k :: spellPieces k.kind.gapAfter ((p.next? k.kind).getD p) ks

/-- Tokens spelled out behind a place. -/
def spell (p : Place) : List Token → Text
  | [] => []
  | k :: ks =>
    p.gapBefore k.kind ++ k.lexeme ++ k.kind.gapAfter ++ spell ((p.next? k.kind).getD p) ks

theorem textOf_layoutPiece_append (w : Text) (ps : List Piece) :
    textOf (layoutPiece w ++ ps) = w ++ textOf ps := by
  rw [layoutPiece]
  split
  · rename_i hw
    rw [hw]
    rfl
  · rfl

theorem tokensOf_layoutPiece_append (w : Text) (ps : List Piece) :
    tokensOf (layoutPiece w ++ ps) = tokensOf ps := by
  rw [layoutPiece]
  split
  · rfl
  · exact tokensOf_skip rfl ps

theorem textOf_spellPieces (w : Text) (p : Place) (ks : List Token) :
    textOf (spellPieces w p ks) = w ++ spell p ks := by
  induction ks generalizing w p with
  | nil =>
    have := textOf_layoutPiece_append w []
    rwa [List.append_nil] at this
  | cons k ks ih =>
    rw [spellPieces, textOf_layoutPiece_append, textOf_cons, ih, spell]
    simp only [List.append_assoc]
    rfl

theorem tokensOf_spellPieces (w : Text) (p : Place) (ks : List Token) :
    tokensOf (spellPieces w p ks) = ks := by
  induction ks generalizing w p with
  | nil =>
    have := tokensOf_layoutPiece_append w []
    rwa [List.append_nil] at this
  | cons k ks ih => rw [spellPieces, tokensOf_layoutPiece_append, tokensOf_token, ih]

theorem getLast?_spellPieces (w : Text) (p : Place) {k : Token} (hk : k.kind.gapAfter = [])
    (hlast : ks.getLast? = some k) : (spellPieces w p ks).getLast? = some (.token k) := by
  induction ks generalizing w p with
  | nil => simp at hlast
  | cons j ks ih =>
    rw [spellPieces, List.getLast?_append]
    cases ks with
    | nil =>
      obtain rfl : j = k := by simpa using hlast
      simp [spellPieces, layoutPiece, hk]
    | cons i ks =>
      rw [List.getLast?_cons_cons] at hlast
      have := ih j.kind.gapAfter ((p.next? j.kind).getD p) hlast
      simp [List.getLast?_cons, this]

theorem wellSpaced_layoutPiece_append {w : Text} {ps : List Piece}
    (hw : ∀ c ∈ w, isLayout c = true)
    (hstop : ∀ c ∈ (textOf ps).head?, isLayout c = false) (h : WellSpaced ps) :
    WellSpaced (layoutPiece w ++ ps) := by
  rw [layoutPiece]
  split
  · exact h
  · rename_i hne
    exact .layout hne hw hstop h

/-- What is spelled out behind a token does not glue to it. -/
theorem stops_spell (h : p.next? k = some p') (hr : orderly.Runs p' ks q) :
    k.Stops (k.gapAfter ++ spell p' ks) := by
  rcases gapAfter_cases k with ⟨-, hglues⟩ | hgap
  · exact fun c _ => hglues c
  rw [hgap, List.nil_append]
  cases hr with
  | nil => simp [Terminal.Stops, spell]
  | @cons _ p'' _ j ks hn hj _ _ =>
    have hsome : (p'.next? j.kind).isSome = true := Option.isSome_iff_exists.2 ⟨p'', hn⟩
    rw [spell]
    rcases p'.gapBefore_cases j.kind with hbefore | hbefore <;> rw [hbefore]
    · intro c hc
      obtain rfl : ' ' = c := by simpa using hc
      exact glues_space k
    · obtain ⟨d, v, hw, ho⟩ := Terminal.Matches.exists_cons hj
      rw [hw]
      intro c hc
      obtain rfl : d = c := by simpa using hc
      exact glues_eq_false h hsome hbefore ho

/-- Tokens in an order that the notation allows are well spaced when they are spelled out. -/
theorem wellSpaced_spellPieces {w : Text} (h : orderly.Runs p ks q)
    (hw : ∀ c ∈ w, isLayout c = true) : WellSpaced (spellPieces w p ks) := by
  -- `w` is the space left over from the token before; with the gap before the next one it makes up
  -- one stretch of layout.
  induction h generalizing w with
  | nil =>
    have := wellSpaced_layoutPiece_append hw (by simp) .nil
    rwa [List.append_nil] at this
  | @cons p p' q k ks hn hk _ hr ih =>
    have hn : p.next? k.kind = some p' := hn
    rw [spellPieces, hn, Option.getD_some]
    have hrest : WellSpaced (spellPieces k.kind.gapAfter p' ks) :=
      ih fun c hc => isLayout_of_mem_gapAfter hc
    refine wellSpaced_layoutPiece_append ?_ ?_ (.token hk ?_ hrest)
    · intro c hc
      rcases List.mem_append.1 hc with hc | hc
      · exact hw c hc
      · exact isLayout_of_mem_gapBefore hc
    · obtain ⟨d, v, hlexeme, ho⟩ := Terminal.Matches.exists_cons hk
      intro c hc
      rw [textOf_cons, Piece.text, hlexeme] at hc
      obtain rfl : d = c := by simpa using hc
      exact isLayout_of_opens ho
    · rw [textOf_spellPieces]
      exact stops_spell hn hr

/-- What tokens are spelled out as is cut into them again. -/
theorem cuts_spell (h : orderly.Runs p ks q) (hq : q.phase = .top) :
    orderly.Cuts p (spell p ks) (spellPieces [] p ks) := by
  have hspaced : WellSpaced (spellPieces [] p ks) := wellSpaced_spellPieces h (by simp)
  have hruns : orderly.Runs p (tokensOf (spellPieces [] p ks)) q := by rwa [tokensOf_spellPieces]
  have hend : orderly.mayEnd q = true := by simp [orderly, hq]
  have hcuts := cuts_textOf hspaced hruns hend
  rwa [textOf_spellPieces, List.nil_append] at hcuts

theorem exists_free_cuts_spell (h : orderly.Runs p ks q) : ∃ qs, free.Cuts () (spell p ks) qs := by
  have hspaced : WellSpaced (spellPieces [] p ks) := wellSpaced_spellPieces h (by simp)
  have hcuts := exists_cuts_textOf hspaced
  rwa [textOf_spellPieces, List.nil_append] at hcuts

/-- Tokens are determined by what they are spelled out as. -/
theorem eq_of_spell_eq {q' : Place} {js : List Token} (hks : orderly.Runs p ks q)
    (hjs : orderly.Runs p js q') (hq : q.phase = .top) (hq' : q'.phase = .top)
    (h : spell p ks = spell p js) : ks = js := by
  have hcuts : orderly.Cuts p (spell p ks) (spellPieces [] p js) := by
    rw [h]
    exact cuts_spell hjs hq'
  rw [← tokensOf_spellPieces [] p ks, (cuts_spell hks hq).unique hcuts, tokensOf_spellPieces]

end Concordance.Notation
