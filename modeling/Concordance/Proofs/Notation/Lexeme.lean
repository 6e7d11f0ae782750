import Concordance.Notation.Token
import Concordance.Proofs.Text.Pieces

/-!
# What the terminals match

`Terminal.Matches` says which texts a terminal stands for, without saying how they are found.  The
functions that cut a token off the front of a text find exactly these:

* `matches_of_lexeme?`: what is cut off matches, and nothing of the text is lost;
* `lexeme?_append`: what matches is cut off, unless the text behind it goes on with a character
  that would be drawn into it (`Terminal.glues`).
-/

namespace Concordance.Notation

/-! ## Patterns -/

/-- What may stand between the quotes of a literal or the brackets of a set: no closing character,
unless a backslash protects it, and no backslash before a line feed. -/
inductive Quoted (close : Char) : Text → Prop where
  | nil : Quoted close []
  | escape {c : Char} {t : Text} : c ≠ '\n' → Quoted close t → Quoted close ('\\' :: c :: t)
  | plain {c : Char} {t : Text} : c ≠ close → c ≠ '\\' → Quoted close t → Quoted close (c :: t)

/-- What may stand between two different delimiters that do not nest. -/
def Enclosed (opener close : Char) (t : Text) : Prop := ∀ c ∈ t, c ≠ opener ∧ c ≠ close

/-- The texts that a terminal stands for. -/
def Terminal.Matches : Terminal → Text → Prop
  | .name, w => ∃ c v, w = c :: v ∧ isNameStart c = true ∧ ∀ d ∈ v, isNameChar d = true
  | .literal, w => ∃ v, w = '\'' :: (v ++ ['\'']) ∧ Quoted '\'' v
  | .charset, w => ∃ v, w = '[' :: (v ++ [']']) ∧ Quoted ']' v
  | .action, w => ∃ v, w = '\x7b' :: (v ++ ['\x7d']) ∧ Enclosed '\x7b' '\x7d' v
  | .options, w => ∃ v, w = '<' :: (v ++ ['>']) ∧ Enclosed '<' '>' v
  | .suffix, w => ∃ c, (c = '?' ∨ c = '*' ∨ c = '+') ∧ (w = [c] ∨ w = [c, '?'])
  | .labelOp, w => w = ['+', '='] ∨ w = ['=']
  | k, w => w = k.spelling

/-- The characters that what a terminal stands for may begin with. -/
def Terminal.opens : Terminal → Char → Bool
  | .name, c => isNameStart c
  | .literal, c => c == '\''
  | .charset, c => c == '['
  | .action, c => c == '\x7b'
  | .options, c => c == '<'
  | .suffix, c => c == '?' || c == '*' || c == '+'
  | .labelOp, c => c == '+' || c == '='
  | .fragment, c => c == 'f'
  | .grammar, c => c == 'g'
  | .colon, c => c == ':'
  | .semicolon, c => c == ';'
  | .bar, c => c == '|'
  | .hash, c => c == '#'
  | .arrow, c => c == '-'
  | .comma, c => c == ','
  | .openParen, c => c == '('
  | .closeParen, c => c == ')'
  | .dots, c => c == '.'
  | .dot, c => c == '.'
  | .tilde, c => c == '~'

/-- The characters that may be drawn into a token, or with it into another one, if they stand
directly behind it. -/
def Terminal.glues : Terminal → Char → Bool
  | .name, c | .fragment, c | .grammar, c => isNameChar c
  | .suffix, c => c == '?' || c == '='
  | .dot, c => c == '.'
  | _, _ => false

/-- A text that does not go on with a character of that kind. -/
def Terminal.Stops (k : Terminal) (r : Text) : Prop := ∀ c ∈ r.head?, k.glues c = false

theorem spelling_fragment :
    Terminal.spelling .fragment = ['f', 'r', 'a', 'g', 'm', 'e', 'n', 't'] := by decide

theorem spelling_grammar : Terminal.spelling .grammar = ['g', 'r', 'a', 'm', 'm', 'a', 'r'] := by
  decide

theorem isNameChar_of_isNameStart {c : Char} (h : isNameStart c = true) : isNameChar c = true := by
  simp only [isNameStart, isNameChar, Char.isAlphanum, Bool.or_eq_true] at h ⊢
  rcases h with h | h
  · exact Or.inl (Or.inl h)
  · exact Or.inr h

/-- Every token begins with a character, and it is one that opens tokens of its kind. -/
theorem Terminal.Matches.exists_cons {k : Terminal} {w : Text} (h : k.Matches w) :
    ∃ c v, w = c :: v ∧ k.opens c = true := by
  cases k
  case name =>
    obtain ⟨c, v, rfl, hc, -⟩ := h
    exact ⟨c, v, rfl, hc⟩
  case suffix =>
    obtain ⟨c, hc, rfl | rfl⟩ := h
    · exact ⟨c, [], rfl, by rcases hc with rfl | rfl | rfl <;> rfl⟩
    · exact ⟨c, ['?'], rfl, by rcases hc with rfl | rfl | rfl <;> rfl⟩
  case labelOp =>
    rcases h with rfl | rfl
    · exact ⟨'+', ['='], rfl, rfl⟩
    · exact ⟨'=', [], rfl, rfl⟩
  case literal | charset | action | options =>
    obtain ⟨v, rfl, -⟩ := h
    exact ⟨_, _, rfl, rfl⟩
  all_goals
    obtain rfl := h
    exact ⟨_, _, rfl, rfl⟩

/-! ## Delimited tokens -/

theorem quoted?_cons {close c : Char} (t : Text) (hc : c ≠ '\\') :
    quoted? close (c :: t) =
      if c = close then some ([c], t) else (quoted? close t).map fun (w, r) => (c :: w, r) := by
  rw [quoted?.eq_4 close c t (fun h _ => hc h) (fun _ _ h _ => hc h)]

theorem quoted?_of_quoted {close : Char} (hclose : close ≠ '\\') {v : Text} (h : Quoted close v)
    (r : Text) : quoted? close (v ++ close :: r) = some (v ++ [close], r) := by
  induction h with
  | nil => rw [List.nil_append, quoted?_cons r hclose, if_pos rfl, List.nil_append]
  | escape hc _ ih => simp only [List.cons_append, quoted?, if_neg hc, ih, Option.map_some]
  | plain hclose' hc _ ih =>
    rw [List.cons_append, quoted?_cons _ hc, if_neg hclose', ih]
    rfl

theorem quoted_of_quoted? {close : Char} {t w r : Text} (h : quoted? close t = some (w, r)) :
    ∃ v, Quoted close v ∧ w = v ++ [close] ∧ t = w ++ r := by
  fun_induction quoted? close t generalizing w with
  | case1 => simp at h
  | case2 => simp at h
  | case3 => simp at h
  | case4 c t hc ih =>
    obtain ⟨⟨w', r'⟩, hw, hwr⟩ := Option.map_eq_some_iff.1 h
    obtain ⟨rfl, rfl⟩ := Prod.mk.inj hwr
    obtain ⟨v, hv, rfl, rfl⟩ := ih hw
    exact ⟨'\\' :: c :: v, .escape hc hv, rfl, rfl⟩
  | case5 t =>
    obtain ⟨rfl, rfl⟩ := Prod.mk.inj (Option.some.inj h)
    exact ⟨[], .nil, rfl, rfl⟩
  | case6 c t hnil hcons hclose ih =>
    obtain ⟨⟨w', r'⟩, hw, hwr⟩ := Option.map_eq_some_iff.1 h
    obtain ⟨rfl, rfl⟩ := Prod.mk.inj hwr
    have hc : c ≠ '\\' := by
      rintro rfl
      cases t with
      | nil => exact hnil rfl rfl
      | cons d t => exact hcons d t rfl rfl
    obtain ⟨v, hv, rfl, rfl⟩ := ih hw
    exact ⟨c :: v, .plain hclose hc hv, rfl, rfl⟩

theorem enclosed?_of_enclosed {opener close : Char} {v : Text} (h : Enclosed opener close v)
    (r : Text) : enclosed? opener close (v ++ close :: r) = some (v ++ [close], r) := by
  induction v with
  | nil => rw [List.nil_append, enclosed?, if_pos rfl, List.nil_append]
  | cons c v ih =>
    obtain ⟨ho, hc⟩ := h c List.mem_cons_self
    rw [List.cons_append, enclosed?, if_neg hc, if_neg ho,
      ih fun d hd => h d (List.mem_cons_of_mem _ hd)]
    rfl

theorem enclosed_of_enclosed? {opener close : Char} {t w r : Text}
    (h : enclosed? opener close t = some (w, r)) :
    ∃ v, Enclosed opener close v ∧ w = v ++ [close] ∧ t = w ++ r := by
  fun_induction enclosed? opener close t generalizing w with
  | case1 => simp at h
  | case2 t =>
    obtain ⟨rfl, rfl⟩ := Prod.mk.inj (Option.some.inj h)
    exact ⟨[], by simp [Enclosed], rfl, rfl⟩
  | case3 => simp at h
  | case4 c t hclose hopen ih =>
    obtain ⟨⟨w', r'⟩, hw, hwr⟩ := Option.map_eq_some_iff.1 h
    obtain ⟨rfl, rfl⟩ := Prod.mk.inj hwr
    obtain ⟨v, hv, rfl, rfl⟩ := ih hw
    refine ⟨c :: v, ?_, rfl, rfl⟩
    intro d hd
    rcases List.mem_cons.1 hd with rfl | hd
    · exact ⟨hopen, hclose⟩
    · exact hv d hd

/-! ## Reading a lexeme -/

theorem literal?_append (w r : Text) : literal? w (w ++ r) = some (w, r) := by
  rw [literal?, if_pos (List.isPrefixOf_iff_prefix.2 (List.prefix_append w r)), List.drop_left]

theorem eq_of_literal? {s t w r : Text} (h : literal? s t = some (w, r)) : w = s ∧ t = w ++ r := by
  rw [literal?] at h
  split at h
  · rename_i hp
    obtain ⟨u, rfl⟩ := List.isPrefixOf_iff_prefix.1 hp
    obtain ⟨rfl, rfl⟩ := Prod.mk.inj (Option.some.inj h)
    exact ⟨rfl, by rw [List.drop_left]⟩
  · simp at h

theorem lexeme?_name_cons {c : Char} (t : Text) (hc : isNameStart c = true) :
    Terminal.name.lexeme? (c :: t) =
      some (c :: t.takeWhile isNameChar, t.dropWhile isNameChar) := by
  simp [Terminal.lexeme?, hc]

/-- What matches is cut off, unless the text goes on with a character that would be drawn into
it. -/
theorem lexeme?_append {k : Terminal} {w r : Text} (hw : k.Matches w) (hr : k.Stops r) :
    k.lexeme? (w ++ r) = some (w, r) := by
  cases k
  case name =>
    obtain ⟨c, v, rfl, hc, hv⟩ := hw
    rw [List.cons_append, lexeme?_name_cons _ hc, Text.takeWhile_append_of_head hv hr,
      Text.dropWhile_append_of_head hv hr]
  case literal =>
    obtain ⟨v, rfl, hv⟩ := hw
    simp [Terminal.lexeme?, quoted?_of_quoted (by decide) hv]
  case charset =>
    obtain ⟨v, rfl, hv⟩ := hw
    simp [Terminal.lexeme?, quoted?_of_quoted (by decide) hv]
  case action =>
    obtain ⟨v, rfl, hv⟩ := hw
    simp [Terminal.lexeme?, enclosed?_of_enclosed hv]
  case options =>
    obtain ⟨v, rfl, hv⟩ := hw
    simp [Terminal.lexeme?, enclosed?_of_enclosed hv]
  case suffix =>
    obtain ⟨c, hc, rfl | rfl⟩ := hw
    · cases r with
      | nil => simp [Terminal.lexeme?, hc]
      | cons d r =>
        have hd : d ≠ '?' := by
          have := hr d rfl
          simp only [Terminal.glues, Bool.or_eq_false_iff, beq_eq_false_iff_ne] at this
          exact this.1
        simp [Terminal.lexeme?, hc, hd]
    · simp [Terminal.lexeme?, hc]
  case labelOp =>
    rcases hw with rfl | rfl
    · rfl
    · rfl
  all_goals
    obtain rfl := hw
    exact literal?_append _ _

/-- What is cut off matches, and nothing of the text is lost. -/
theorem matches_of_lexeme? {k : Terminal} {t w r : Text} (h : k.lexeme? t = some (w, r)) :
    k.Matches w ∧ t = w ++ r := by
  unfold Terminal.lexeme? at h
  split at h
  case h_1 c t =>
    split at h
    · rename_i hc
      obtain ⟨rfl, rfl⟩ := Prod.mk.inj (Option.some.inj h)
      refine ⟨⟨c, _, rfl, hc, fun d hd => List.all_eq_true.1 List.all_takeWhile d hd⟩, ?_⟩
      rw [List.cons_append, List.takeWhile_append_dropWhile]
    · simp at h
  case h_2 t | h_3 t =>
    obtain ⟨⟨w', r'⟩, hw, hwr⟩ := Option.map_eq_some_iff.1 h
    obtain ⟨rfl, rfl⟩ := Prod.mk.inj hwr
    obtain ⟨v, hv, rfl, rfl⟩ := quoted_of_quoted? hw
    exact ⟨⟨v, rfl, hv⟩, rfl⟩
  case h_4 t | h_5 t =>
    obtain ⟨⟨w', r'⟩, hw, hwr⟩ := Option.map_eq_some_iff.1 h
    obtain ⟨rfl, rfl⟩ := Prod.mk.inj hwr
    obtain ⟨v, hv, rfl, rfl⟩ := enclosed_of_enclosed? hw
    exact ⟨⟨v, rfl, hv⟩, rfl⟩
  case h_6 c t =>
    split at h
    · rename_i hc
      split at h
      · obtain ⟨rfl, rfl⟩ := Prod.mk.inj (Option.some.inj h)
        exact ⟨⟨c, hc, Or.inr rfl⟩, rfl⟩
      · obtain ⟨rfl, rfl⟩ := Prod.mk.inj (Option.some.inj h)
        exact ⟨⟨c, hc, Or.inl rfl⟩, rfl⟩
    · simp at h
  case h_7 =>
    obtain ⟨rfl, rfl⟩ := Prod.mk.inj (Option.some.inj h)
    exact ⟨Or.inl rfl, rfl⟩
  case h_8 =>
    obtain ⟨rfl, rfl⟩ := Prod.mk.inj (Option.some.inj h)
    exact ⟨Or.inr rfl, rfl⟩
  case h_16 h1 h2 h3 h4 h5 h6 h7 _ _ _ _ _ _ _ _ =>
    obtain ⟨rfl, hr⟩ := eq_of_literal? h
    refine ⟨?_, hr⟩
    cases k <;> first | rfl | contradiction
  all_goals simp at h

/-- Nothing is cut off a text that does not begin with what the terminal stands for. -/
theorem lexeme?_eq_none_of_forall {k : Terminal} {t : Text}
    (h : ∀ w r, k.Matches w → t ≠ w ++ r) : k.lexeme? t = none := by
  rw [Option.eq_none_iff_forall_not_mem]
  rintro ⟨w, r⟩ hw
  obtain ⟨hm, ht⟩ := matches_of_lexeme? hw
  exact h w r hm ht

theorem lexeme?_eq_none {k : Terminal} {c : Char} {t : Text} (h : k.opens c = false) :
    k.lexeme? (c :: t) = none := by
  refine lexeme?_eq_none_of_forall fun w r hw ht => ?_
  obtain ⟨d, v, rfl, hd⟩ := hw.exists_cons
  obtain rfl : c = d := (List.cons.inj ht).1
  rw [hd] at h
  exact absurd h (by simp)

end Concordance.Notation
