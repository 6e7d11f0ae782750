import Concordance.Proofs.Notation.Spans

/-!
# The seam of two texts

Two texts joined by a line feed are read one behind the other.  The line feed falls between the
parts of the first text and those of the second.  There it is layout, or a piece of the layout
around it, and every other part is as it was; what a part becomes does not depend on where it
stands.

* `Part.map_production_spans`: a part becomes the same productions at every offset.
* `exists_seamed_parts`: the parts of the joined texts.
* `read_feed_iff`: behind a text that can be read, another one can be read exactly if it can be
  read alone.
-/

namespace Concordance.Notation

variable {t u w : Text} {ps us : List Piece} {parts : List Part} {g k : Grammar}

/-! ## What parts become -/

theorem map_commentsOf_locate (o o' : Nat) (ps : List Piece) :
    (commentsOf (locate o ps)).map (·.2) = (commentsOf (locate o' ps)).map (·.2) := by
  induction ps generalizing o o' with
  | nil => rfl
  | cons p ps ih =>
    cases p with
    | layout | token => exact ih _ _
    | comment w => exact congrArg (w :: ·) (ih _ _)

/-- What a part becomes. -/
def Part.productions (p : Part) : Grammar := (p.spans 0).map (·.production)

/-- A part becomes the same at every offset. -/
theorem Part.map_production_spans (o : Nat) (p : Part) :
    (p.spans o).map (·.production) = p.productions := by
  cases p with
  | layout | comment | rule => rfl
  | header h s =>
    have hcomments := congrArg (List.map fun w => (Span.ofComment (0, w)).production)
      (map_commentsOf_locate o 0 s.pieces)
    rw [List.map_map, List.map_map] at hcomments
    rw [productions, spans, spans, List.map_map, List.map_map]
    exact hcomments

/-- What parts become, one behind another. -/
def productionsOf (parts : List Part) : Grammar := parts.flatMap Part.productions

theorem productionsOf_cons (p : Part) (parts : List Part) :
    productionsOf (p :: parts) = p.productions ++ productionsOf parts := List.flatMap_cons

theorem map_production_spansOf (o : Nat) (parts : List Part) :
    (spansOf o parts).map (·.production) = productionsOf parts := by
  induction parts generalizing o with
  | nil => rfl
  | cons p parts ih =>
    rw [spansOf_cons, List.map_append, p.map_production_spans, ih, productionsOf_cons]

/-- A text is read if its pieces are those of parts, and as what these become. -/
theorem read_eq_ok_iff_parts {source : Text} : read t source = .ok g ↔
    ∃ parts, orderly.Cuts ⟨.top, 0⟩ t (piecesOf parts) ∧ g = productionsOf parts := by
  constructor
  · intro h
    obtain ⟨parts, hcuts, rfl⟩ := read_spansOf h
    exact ⟨parts, hcuts, map_production_spansOf 0 parts⟩
  · rintro ⟨parts, hcuts, rfl⟩
    rw [read_piecesOf hcuts, map_production_spansOf]

/-! ## The parts of joined texts -/

theorem Part.pieces_ne_nil (p : Part) : p.pieces ≠ [] := by
  cases p with
  | layout | comment => exact List.cons_ne_nil _ _
  | rule r s | header h s =>
    obtain ⟨k, hk⟩ := s.head
    intro hnil
    rw [show s.pieces = [] from hnil] at hk
    cases hk

theorem Part.eq_layout_of_head? {p : Part} (h : p.pieces.head? = some (.layout w)) :
    ∃ hne hw, p = .layout w hne hw := by
  cases p with
  | layout v hne hw =>
    obtain rfl := Piece.layout.inj (Option.some.inj h)
    exact ⟨hne, hw, rfl⟩
  | comment => cases h
  | rule r s | header h s =>
    obtain ⟨k, hk⟩ := s.head
    cases hk.symm.trans h

theorem seamed_append (h : ∀ w, ps.getLast? ≠ some (.layout w)) (qs us : List Piece) :
    seamed (ps ++ qs) us = ps ++ seamed qs us := by
  induction ps with
  | nil => rfl
  | cons p ps ih =>
    cases ps with
    | nil => exact seamed_cons (Or.inl fun w hw => h w (by rw [hw]; rfl))
    | cons q ps =>
      have hrest := ih fun w hw => h w (by rw [List.getLast?_cons_cons, hw])
      rw [List.cons_append, seamed_cons (Or.inr (by simp)), hrest]
      rfl

/-- Layout in front of parts is a part, or lengthens the first one. -/
theorem exists_withLayout_parts (hne : w ≠ []) (hw : ∀ c ∈ w, isLayout c = true)
    (parts : List Part) :
    ∃ longer, piecesOf longer = withLayout w (piecesOf parts) ∧
      productionsOf longer = productionsOf parts := by
  by_cases hlayout : ∃ v hv hall rest, parts = .layout v hv hall :: rest
  · obtain ⟨v, hv, hall, rest, rfl⟩ := hlayout
    have hlonger : ∀ c ∈ w ++ v, isLayout c = true :=
      fun c hc => (List.mem_append.1 hc).elim (hw c) (hall c)
    exact ⟨.layout (w ++ v) (List.append_ne_nil_of_left_ne_nil hne v) hlonger :: rest, rfl, rfl⟩
  · have hhead : ∀ v, (piecesOf parts).head? ≠ some (.layout v) := by
      intro v hv
      cases parts with
      | nil => cases hv
      | cons p rest =>
        rw [piecesOf_cons, List.head?_append_of_ne_nil _ p.pieces_ne_nil] at hv
        obtain ⟨hne', hall, rfl⟩ := Part.eq_layout_of_head? hv
        exact hlayout ⟨v, hne', hall, rest, rfl⟩
    exact ⟨.layout w hne hw :: parts, (withLayout_eq_cons hhead).symm, rfl⟩

/-- The parts of joined texts become what those of the two texts become. -/
theorem exists_seamed_parts (ps us : List Part) :
    ∃ parts, piecesOf parts = seamed (piecesOf ps) (piecesOf us) ∧
      productionsOf parts = productionsOf ps ++ productionsOf us := by
  induction ps with
  | nil =>
    exact exists_withLayout_parts (List.cons_ne_nil '\n' []) (List.forall_mem_singleton.2 rfl) us
  | cons p ps ih =>
    obtain ⟨parts, hpieces, hproductions⟩ := ih
    have hkept : seamed (piecesOf (p :: ps)) (piecesOf us) =
        p.pieces ++ seamed (piecesOf ps) (piecesOf us) →
        ∃ parts, piecesOf parts = seamed (piecesOf (p :: ps)) (piecesOf us) ∧
          productionsOf parts = productionsOf (p :: ps) ++ productionsOf us := by
      intro hseamed
      exact ⟨p :: parts, by rw [hseamed, piecesOf_cons, hpieces],
        by rw [productionsOf_cons, productionsOf_cons, hproductions, List.append_assoc]⟩
    -- The seam leaves every part alone but layout at the end of the first text.
    cases p with
    | comment w hne => exact hkept (seamed_append (fun v hv => by cases hv) _ _)
    | rule r s | header h s =>
      exact hkept (seamed_append (fun w hw => nomatch s.last.symm.trans hw) _ _)
    | layout w hne hw =>
      cases ps with
      | cons q ps =>
        exact hkept (seamed_cons (Or.inr (List.append_ne_nil_of_left_ne_nil q.pieces_ne_nil _)))
      | nil =>
        have hfeed : ∀ c ∈ w ++ ['\n'], isLayout c = true := fun c hc =>
          (List.mem_append.1 hc).elim (hw c) fun hc => List.mem_singleton.1 hc ▸ rfl
        exact exists_withLayout_parts (List.append_ne_nil_of_left_ne_nil hne _) hfeed us

/-! ## Joined texts -/

/-- Behind a text that can be read, and a line feed, another text can be read exactly if it can be
read alone.  What it is read as stands behind what the first one is read as. -/
theorem read_feed_iff {a b source : Text} (h : read t a = .ok g) :
    read (t ++ '\n' :: u) source = .ok k ↔ ∃ l, read u b = .ok l ∧ k = g ++ l := by
  obtain ⟨ps, hps, rfl⟩ := read_eq_ok_iff_parts.1 h
  have hjoined : ∀ us l, orderly.Cuts ⟨.top, 0⟩ u (piecesOf us) → l = productionsOf us →
      read (t ++ '\n' :: u) source = .ok (productionsOf ps ++ l) := by
    rintro us l hus rfl
    obtain ⟨parts, hpieces, hproductions⟩ := exists_seamed_parts ps us
    exact read_eq_ok_iff_parts.2 ⟨parts, hpieces ▸ orderly_append_feed hps hus, hproductions.symm⟩
  constructor
  · intro hk
    obtain ⟨parts, hparts, -⟩ := read_eq_ok_iff_parts.1 hk
    obtain ⟨us, hus⟩ := orderly_of_append_feed hps hparts
    obtain ⟨us, rfl⟩ := exists_parts hus
    have hread := hjoined us _ hus rfl
    exact ⟨_, read_eq_ok_iff_parts.2 ⟨us, hus, rfl⟩, Except.ok.inj (hk.symm.trans hread)⟩
  · rintro ⟨l, hl, rfl⟩
    obtain ⟨us, hus, hl⟩ := read_eq_ok_iff_parts.1 hl
    exact hjoined us l hus hl

end Concordance.Notation
