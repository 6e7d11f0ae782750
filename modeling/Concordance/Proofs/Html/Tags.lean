import Concordance.Proofs.Html.Elements

/-!
# The tags of a page

A page is written piece by piece.  A tag that begins in a piece ends in it, so the tags of a piece
do not depend on what stands behind it; only its text may go on there.

* `tags` leaves out the texts among tokens.
* `Spells` relates a piece of a page to its tags.
* `Spells.tags_tokens`: the tags of a page are those of its pieces.
-/

namespace Concordance.Html

open Text
open Markdown (enclose)

variable {t u v rest : Text} {ts us : List Token}

/-! ## Tokens other than texts -/

/-- Whether a token is text. -/
def Token.isText : Token → Bool
  | .text _ => true
  | _ => false

/-- The tokens other than texts. -/
def tags (ts : List Token) : List Token := ts.filter fun t => !t.isText

theorem tags_text (t : Text) (ts : List Token) : tags (.text t :: ts) = tags ts := rfl

theorem tags_cons {token : Token} (h : token.isText = false) (ts : List Token) :
    tags (token :: ts) = token :: tags ts :=
  List.filter_cons_of_pos (by rw [h]; rfl)

/-- What begins with an angle bracket is no text. -/
theorem isText_of_bracket? {token : Token} (h : bracket? t = some (some token, rest)) :
    token.isText = false := by
  unfold bracket? at h
  repeat' split at h
  all_goals cases h
  all_goals rfl

/-! ## Tags in front of a text -/

/-- The tags of a text are found in no more steps than the text has characters. -/
def HasTags (t : Text) (ts : List Token) : Prop :=
  ∃ steps ≤ t.length, ∀ fuel, steps ≤ fuel → tags (tokensOf fuel t) = ts

theorem hasTags_nil : HasTags [] [] := by
  refine ⟨0, Nat.le_refl 0, fun fuel _ => ?_⟩
  cases fuel <;> rfl

/-- A text that begins without a tag has the tags that are behind it, up to the next one. -/
theorem tags_tokensOf_cons {c : Char} (hc : c ≠ '<') (r : Text) (fuel : Nat) :
    tags (tokensOf (fuel + 1) (c :: r)) =
      tags (tokensOf fuel (r.drop (r.takeWhile (· != '<')).length)) := by
  rw [tokensOf]
  simp only [if_neg hc]
  rfl

namespace HasTags

/-- Text in front of a text becomes one token with the text that stands there. -/
theorem text (hu : '<' ∉ u) (h : HasTags rest ts) : HasTags (u ++ rest) ts := by
  obtain ⟨steps, hsteps, htags⟩ := h
  cases u with
  | nil => exact ⟨steps, hsteps, htags⟩
  | cons c u =>
    rw [List.mem_cons, not_or] at hu
    have hplain : ∀ d ∈ u, (d != '<') = true := fun d hd => bne_iff_ne.2 fun heq => hu.2 (heq ▸ hd)
    refine ⟨steps + 1, ?_, fun fuel hfuel => ?_⟩
    · rw [List.length_append, List.length_cons]
      omega
    · obtain ⟨fuel, rfl⟩ := Nat.exists_eq_add_of_le' hfuel
      rw [List.cons_append, ← Nat.add_assoc, tags_tokensOf_cons (Ne.symm hu.1),
        List.takeWhile_append_of_pos hplain, List.length_append, ← List.drop_drop, List.drop_left]
      cases rest with
      | nil => exact htags _ (Nat.le_add_left steps fuel)
      | cons d rest =>
        by_cases hd : d = '<'
        · subst hd
          exact htags _ (Nat.le_add_left steps fuel)
        · rw [List.takeWhile_cons, if_pos (bne_iff_ne.2 hd), List.length_cons, List.drop_succ_cons,
            ← tags_tokensOf_cons hd]
          exact htags _ (by omega)

/-- A tag, with the text that its element holds where it holds text only. -/
theorem token {token : Token} {literal : List Token} (hbracket : bracket? t = some (some token, v))
    (hliteral : literalText token v = (literal, rest)) (htexts : tags literal = [])
    (hle : rest.length ≤ t.length) (h : HasTags rest ts) : HasTags ('<' :: t) (token :: ts) := by
  obtain ⟨steps, hsteps, htags⟩ := h
  refine ⟨steps + 1, Nat.succ_le_succ (Nat.le_trans hsteps hle), fun fuel hfuel => ?_⟩
  obtain ⟨fuel, rfl⟩ := Nat.exists_eq_add_of_le' hfuel
  have happend : tags (literal ++ tokensOf (fuel + steps) rest) = ts := by
    rw [tags, List.filter_append, ← tags, ← tags, htexts, htags _ (Nat.le_add_left steps fuel)]
    rfl
  rw [← Nat.add_assoc, tokensOf]
  simp only [if_true, hbracket, hliteral]
  rw [tags_cons (isText_of_bracket? hbracket), happend]

end HasTags

/-! ## Pieces of a page -/

/-- A piece of a page is read as tags, whatever stands behind it. -/
inductive Spells : Text → List Token → Prop where
  | nil : Spells [] []
  | text {u t : Text} {ts : List Token} : '<' ∉ u → Spells t ts → Spells (u ++ t) ts
  | tag {u t : Text} {token : Token} {ts : List Token} :
      (∀ rest, bracket? (u ++ rest) = some (some token, rest)) →
      (∀ rest, literalText token rest = ([], rest)) → Spells t ts →
      Spells ('<' :: u ++ t) (token :: ts)
  /-- A tag of an element that holds the text `v` only. -/
  | literal {u v t x : Text} {token : Token} {ts : List Token} :
      (∀ rest, bracket? (u ++ rest) = some (some token, rest)) →
      (∀ rest, literalText token (v ++ (t ++ rest)) = ([.text x], t ++ rest)) → Spells t ts →
      Spells ('<' :: u ++ (v ++ t)) (token :: ts)

namespace Spells

theorem append (h : Spells u ts) (h' : Spells v us) : Spells (u ++ v) (ts ++ us) := by
  induction h with
  | nil => exact h'
  | text hu _ ih =>
    rw [List.append_assoc]
    exact .text hu ih
  | tag hbracket hliteral _ ih =>
    rw [List.append_assoc]
    exact .tag hbracket hliteral ih
  | @literal u w t x token ts hbracket hliteral _ ih =>
    rw [List.append_assoc, List.append_assoc]
    refine .literal (x := x) hbracket (fun rest => ?_) ih
    rw [List.append_assoc]
    exact hliteral (v ++ rest)

theorem hasTags (h : Spells u ts) (hrest : HasTags rest us) : HasTags (u ++ rest) (ts ++ us) := by
  induction h with
  | nil => exact hrest
  | text hu _ ih =>
    rw [List.append_assoc]
    exact ih.text hu
  | @tag u t token ts hbracket hliteral _ ih =>
    rw [List.append_assoc, List.cons_append]
    refine .token (hbracket _) (hliteral _) rfl ?_ ih
    simp only [List.length_append]
    omega
  | @literal u w t x token ts hbracket hliteral _ ih =>
    rw [List.append_assoc, List.append_assoc, List.cons_append]
    refine .token (hbracket _) (hliteral rest) rfl ?_ ih
    simp only [List.length_append]
    omega

/-- The tags of a page are those of its pieces. -/
theorem tags_tokens (h : Spells t ts) : tags (tokens t) = ts := by
  have hpage := h.hasTags hasTags_nil
  rw [List.append_nil, List.append_nil] at hpage
  obtain ⟨steps, hsteps, htags⟩ := hpage
  exact htags _ (Nat.le_succ_of_le hsteps)

theorem ofText (hu : '<' ∉ u) : Spells u [] := by
  have h := Spells.text hu .nil
  rwa [List.append_nil] at h

theorem opening {n s : Text} {as : Attributes} {empty : Bool} (hn : IsElementName n)
    (hs : EndsTag s as empty) : Spells ('<' :: (n ++ s)) [.opening n as empty] := by
  have hbracket : ∀ rest, bracket? (n ++ s ++ rest) = some (some (.opening n as empty), rest) := by
    intro rest
    rw [List.append_assoc]
    exact bracket?_of_endsTag hn hs rest
  have hliteral : ∀ rest, literalText (.opening n as empty) rest = ([], rest) := by
    intro rest
    cases empty <;> simp only [literalText, hn.holdsNodes]
  have h := Spells.tag hbracket hliteral .nil
  rwa [List.append_nil] at h

theorem closing {n : Text} (hn : IsElementName n) :
    Spells ('<' :: '/' :: (n ++ ['>'])) [.closing n] := by
  have hbracket : ∀ rest, bracket? ('/' :: (n ++ ['>']) ++ rest) =
      some (some (.closing n), rest) := by
    intro rest
    rw [List.cons_append, List.append_assoc]
    exact bracket?_closing hn rest
  have h := Spells.tag hbracket (fun _ => rfl) .nil
  rwa [List.append_nil] at h

theorem comment {c : Text} (hc : ∀ rest, behindOpening (c ++ rest) = rest) :
    Spells ("<!--".toList ++ c) [.comment] := by
  have hbracket : ∀ rest, bracket? ("!--".toList ++ c ++ rest) = some (some .comment, rest) := by
    intro rest
    rw [List.append_assoc]
    exact congrArg (fun r => some (some Token.comment, r)) (hc rest)
  have h := Spells.tag hbracket (fun _ => rfl) .nil
  rwa [List.append_nil] at h

end Spells

/-- A piece of markup is whole: a tag that begins in it ends in it. -/
def IsWhole (t : Text) : Prop := Spells t (tags (tokens t))

theorem Spells.isWhole (h : Spells t ts) : IsWhole t := by
  rw [IsWhole, h.tags_tokens]
  exact h

/-! ## Elements -/

/-- The tags of an element around others. -/
def elementTags (name : Text) (as : Attributes) (ts : List Token) : List Token :=
  .opening name as false :: (ts ++ [.closing name])

/-- An element that stands around a text. -/
theorem enclose_eq (name : String) (s body : Text) :
    enclose name s body =
      '<' :: (name.toList ++ (s ++ ['>'])) ++
        (body ++ '<' :: '/' :: (name.toList ++ ['>'])) := by
  simp [enclose]

theorem Spells.element {name : String} {s body : Text} {as : Attributes}
    (hn : IsElementName name.toList) (hs : EndsTag (s ++ ['>']) as false) (h : Spells body ts) :
    Spells (enclose name s body) (elementTags name.toList as ts) := by
  rw [enclose_eq]
  exact (Spells.opening hn hs).append (h.append (Spells.closing hn))

end Concordance.Html
