import Concordance.Proofs.Notation.Rendering
import Concordance.Proofs.Notation.Serialization

/-!
# Serialized rules

What a serialized rule says about the rule it was made from.

* `serialize_reads_back`: it reads back, as the rule.
* `serialize_eq_iff`: it tells rules apart by their tokens, so that layout and comments do not
  count and everything else does.
-/

namespace Concordance.Notation

open Grammar (named)

/-! ## Reading back -/

/-- **The canonical form reads back.**  The production that is rendered for a rule is read again
from its serialized form, by itself; and so is every named production that was read from a text. -/
theorem serialize_reads_back :
    (∀ (r : Rule) (source : Text), read r.production.serialize source =
      .ok [{ r.production with text := r.production.serialize }]) ∧
    ∀ (t source source' : Text) (g : Grammar) (p : Production),
      read t source = .ok g → p ∈ g → p.name.isSome = true →
      ∃ q, read p.serialize source' = .ok [q] ∧ q.name = p.name ∧ q.fragment = p.fragment ∧
        q.body = p.body ∧ q.serialize = p.serialize := by
  refine ⟨fun r source => ?_, fun t source source' g p h hp hname => ?_⟩
  · rw [← r.tokens_production]
    exact read_serialize_production r.tokens source
  · obtain ⟨r, w, rfl⟩ := exists_tokens_of_mem_read h hp hname
    exact ⟨_, read_serialize_production r source', rfl, rfl, rfl, rfl⟩

/-- A fragment rule with layout is read, and its serialized form reads back. -/
theorem serialize_reads_back_fragment :
    let t : Text := "fragment a:b ? ;".toList
    let p : Production := { name := some ['a'], body := ['b', '?'], text := t, fragment := true }
    read t = .ok [p] ∧
      ∃ q, read p.serialize = .ok [q] ∧ q.name = p.name ∧ q.fragment = p.fragment ∧
        q.body = p.body ∧ q.serialize = p.serialize := by
  intro t p
  have h : read t = .ok [p] := rfl
  exact ⟨h, serialize_reads_back.2 t [] [] [p] p h List.mem_cons_self rfl⟩

/-! ## Texts of one rule -/

/-- The tokens of a text as its reader sees them, without the blanks in options; layout and
comments are dropped. -/
def seenTokens (t : Text) : List Token :=
  match orderly.pieces ⟨.top, 0⟩ t with
  | .ok ps => (tokensOf ps).map Token.normal
  | .error _ => []

/-- A text of exactly one statement, which is a rule. -/
def IsOneRule (t : Text) : Prop :=
  ∃ ps s c, orderly.pieces ⟨.top, 0⟩ t = .ok ps ∧ statements (tokens (locate 0 ps)) = [s] ∧
    rule? t s = some c

theorem flatten_statements (ks : Tokens) : (statements ks).flatten = ks := by
  induction ks with
  | nil => rfl
  | cons k ks ih =>
    rw [statements]
    split
    · rw [List.flatten_cons, ih, List.singleton_append]
    · cases hs : statements ks with
      | nil =>
        rw [hs] at ih
        rw [← ih]
        rfl
      | cons s ss =>
        rw [hs] at ih
        rw [← ih]
        rfl

/-- A text of one rule is read as its production, and the tokens that are seen are those of the
rule. -/
theorem read_of_isOneRule {t source : Text} {g : Grammar} (h : read t source = .ok g)
    (ht : IsOneRule t) :
    ∃ (r : RuleTokens) (w : Text), named g = [{ r.production with text := w }] ∧
      seenTokens t = r.normal.tokens := by
  obtain ⟨ps, s, c, hps, hs, hc⟩ := ht
  have hcuts := pieces_eq_ok.1 hps
  obtain ⟨qs, hqs, hnamed⟩ := named_read h
  obtain rfl := hqs.unique hcuts
  have htokens : s = tokens (locate 0 qs) := by
    rw [← flatten_statements (tokens (locate 0 qs)), hs]
    exact (List.append_nil s).symm
  rcases rules_cases hcuts s (by simp [hs]) with ⟨r, hr⟩ | hnone
  · obtain ⟨a, b, -, -, hrule⟩ := rule?_of_tokens (t := t) hr
    refine ⟨r, (t.drop a).take (b + 1 - a), ?_, ?_⟩
    · rw [hnamed, rules, hs, List.filterMap_cons_some hrule]
      rfl
    · rw [htokens, tokens_locate] at hr
      rw [seenTokens, hps, r.normal_tokens, ← hr]
  · rw [hnone] at hc
    simp at hc

/-- **Serialized forms identify rules up to layout.**  Two texts of one rule each have the same
serialized production exactly if the same tokens are seen in them, and exactly then a comparison of
the two grammars reports nothing. -/
theorem serialize_eq_iff {t₁ t₂ source₁ source₂ : Text} {g₁ g₂ : Grammar}
    (h₁ : read t₁ source₁ = .ok g₁) (h₂ : read t₂ source₂ = .ok g₂) (ht₁ : IsOneRule t₁)
    (ht₂ : IsOneRule t₂) :
    ∃ p₁ p₂, named g₁ = [p₁] ∧ named g₂ = [p₂] ∧
      (p₁.serialize = p₂.serialize ↔ seenTokens t₁ = seenTokens t₂) ∧
      ∀ start, Grammar.compare g₁ g₂ start = [] ↔ seenTokens t₁ = seenTokens t₂ := by
  obtain ⟨r₁, w₁, hg₁, hs₁⟩ := read_of_isOneRule h₁ ht₁
  obtain ⟨r₂, w₂, hg₂, hs₂⟩ := read_of_isOneRule h₂ ht₂
  refine ⟨_, _, hg₁, hg₂, ?_, fun start => ?_⟩
  · rw [hs₁, hs₂]
    exact serialize_production_inj
  · rw [← Grammar.compare_named, hg₁, hg₂, Grammar.compare_singleton rfl rfl, hs₁, hs₂,
      ← serialize_production_inj]
    exact ⟨fun h => h.2, fun h => ⟨name_eq_of_serialize_eq h, h⟩⟩

/-- Two spellings of one rule. -/
theorem serialize_eq_iff_layout :
    let p : Production := { name := some ['a'], body := ['b'], text := "a:b;".toList }
    let q : Production := { name := some ['a'], body := ['b'], text := "a : b ;".toList }
    ∃ p₁ p₂, named [p] = [p₁] ∧ named [q] = [p₂] ∧
      (p₁.serialize = p₂.serialize ↔ seenTokens "a:b;".toList = seenTokens "a : b ;".toList) ∧
      ∀ start, Grammar.compare [p] [q] start = [] ↔
        seenTokens "a:b;".toList = seenTokens "a : b ;".toList := by
  intro p q
  have hp : read "a:b;".toList = .ok [p] := rfl
  have hq : read "a : b ;".toList = .ok [q] := rfl
  exact serialize_eq_iff hp hq ⟨_, _, _, rfl, rfl, rfl⟩ ⟨_, _, _, rfl, rfl, rfl⟩

end Concordance.Notation
