import Concordance.Markdown.Inline
import Concordance.Proofs.Text.Words

/-!
# Running text that is one link

A label of plain characters in brackets, with a bare destination in parentheses behind it, is read
as one link, and as nothing else.

* `bare?_append`, `unescape_of_isBare`: a bare destination ends at its parenthesis and has no
  escapes.
* `labelAt?_linkText`: the label ends at its bracket, whatever may stand behind.
* `readSpans_linkText`: the text is one link, whose label is the plain text.
-/

namespace Concordance.Markdown

open Text

/-- A label in brackets and a destination in parentheses. -/
def linkText (label destination : Text) : Text :=
  '[' :: (label ++ ']' :: '(' :: (destination ++ [')']))

/-! ## Destinations -/

/-- A character that means nothing to the reader of a bare destination. -/
def IsBare (c : Char) : Prop :=
  0x20 < c.toNat ∧ c.toNat ≠ 0x7F ∧ c ≠ '\\' ∧ c ≠ '(' ∧ c ≠ ')' ∧ c ≠ '<' ∧ c ≠ '&'

theorem bare?_append {t : Text} (h : ∀ c ∈ t, IsBare c) (rest : Text) :
    bare? 0 (t ++ ')' :: rest) = some (t, ')' :: rest) := by
  induction t with
  | nil =>
    rw [List.nil_append, bare?.eq_def]
    rfl
  | cons c t ih =>
    obtain ⟨hlow, hdel, hslash, hopen, hclose, -, -⟩ := h c List.mem_cons_self
    have hblank : ¬ (c.toNat ≤ 0x20 ∨ c.toNat = 0x7F) := by omega
    rw [List.cons_append, bare?.eq_def]
    simp only [hblank, hslash, hopen, hclose, if_false,
      ih fun d hd => h d (List.mem_cons_of_mem _ hd), Option.map_some]

theorem unescape_of_isBare {t : Text} (h : ∀ c ∈ t, IsBare c) : unescape t = t := by
  rw [unescape]
  induction t with
  | nil => rfl
  | cons c t ih =>
    obtain ⟨-, -, hslash, -, -, -, hamp⟩ := h c List.mem_cons_self
    rw [unescapeFrom.eq_def]
    simp only [Nat.lt_irrefl, hslash, hamp, if_false,
      ih fun d hd => h d (List.mem_cons_of_mem _ hd)]

/-- A bare destination is read up to the closing parenthesis. -/
theorem destination?_append {t : Text} (hne : t ≠ []) (h : ∀ c ∈ t, IsBare c) (rest : Text) :
    destination? (t ++ ')' :: rest) = some (t, ')' :: rest) := by
  obtain ⟨c, t, rfl⟩ := List.exists_cons_of_ne_nil hne
  have hangle : c ≠ '<' := (h c List.mem_cons_self).2.2.2.2.2.1
  rw [destination?.eq_def]
  split
  · rename_i heq
    exact absurd (List.cons.inj heq).1 hangle
  · rw [bare?_append h]
    simp only [unescape_of_isBare h]

theorem target?_append {t : Text} (hne : t ≠ []) (h : ∀ c ∈ t, IsBare c)
    (hallowed : Url.isAllowed (Url.normalize t) = true) :
    target? (t ++ [')']) = some (⟨Url.normalize t, []⟩, [')']) := by
  have hgap : (t ++ [')']).dropWhile isGap = t ++ [')'] := by
    refine dropWhile_of_head fun c hc => ?_
    have hmem : c ∈ t := by
      obtain ⟨d, t, rfl⟩ := List.exists_cons_of_ne_nil hne
      simp only [List.cons_append, List.head?_cons, Option.mem_some_iff] at hc
      exact hc ▸ List.mem_cons_self
    obtain ⟨hlow, -⟩ := h c hmem
    refine Bool.eq_false_iff.2 fun hg => ?_
    simp only [isGap, isSpace, Bool.or_eq_true, beq_iff_eq] at hg
    rcases hg with (rfl | rfl) | rfl <;> exact absurd hlow (by decide)
  rw [target?, hgap]
  split
  · rename_i heq
    simp at heq
  · rw [destination?_append hne h]
    simp only [hallowed, if_true]
    rfl

/-! ## Labels -/

theorem takeWhile_isPlain {label : Text} (h : ∀ c ∈ label, isPlain c = true) (rest : Text) :
    (label ++ ']' :: rest).takeWhile isPlain = label := by
  rw [List.takeWhile_append_of_pos h, List.takeWhile_cons, if_neg (by decide), List.append_nil]

/-- Plain characters up to a bracket are one token. -/
theorem tokenAt_plain (skip : Skip) (definitions : Definitions) (text : Text)
    (pos : Nat) {c : Char} {label : Text} (h : ∀ d ∈ c :: label, isPlain d = true) {rest : Text}
    (hrest : (label ++ rest).takeWhile isPlain = label) (f : Findings) :
    tokenAt skip definitions text pos c (label ++ rest) f =
      ((.plain (c :: label), pos + (c :: label).length), f) := by
  rw [tokenAt]
  simp only [h c List.mem_cons_self, if_true, hrest]

section

variable (definitions : Definitions) {label : Text} (hne : label ≠ [])
  (hlabel : ∀ c ∈ label, isPlain c = true) (destination : Text)

include hne hlabel

/-- The label is one token. -/
theorem tokenEnd_linkText (depth : Nat) :
    tokenEnd definitions (linkText label destination) (depth + 1) 1 {} =
      (1 + label.length, { ends := [(1, 1 + label.length)] }) := by
  obtain ⟨c, tail, rfl⟩ := List.exists_cons_of_ne_nil hne
  have htail : ∀ d ∈ tail, isPlain d = true := fun d hd => hlabel d (List.mem_cons_of_mem _ hd)
  have htext : (linkText (c :: tail) destination).drop 1 =
      c :: (tail ++ ']' :: '(' :: (destination ++ [')'])) := rfl
  rw [tokenEnd.eq_def]
  simp only [List.lookup_nil, htext,
    tokenAt_plain _ _ _ _ hlabel (takeWhile_isPlain htail ('(' :: (destination ++ [')'])))]

/-- The label ends at its bracket. -/
theorem labelAt?_linkText (depth : Nat) (nested : Bool) :
    labelAt? (tokenEnd definitions (linkText label destination) (depth + 1))
        (linkText label destination) nested 1 {} =
      (some (1 + label.length), { ends := [(1, 1 + label.length)] }) := by
  have hlength : (linkText label destination).length = label.length + destination.length + 4 := by
    simp [linkText]
    omega
  have hclose : (linkText label destination)[1 + label.length]? = some ']' := by
    rw [Nat.add_comm, linkText, List.getElem?_cons_succ,
      List.getElem?_append_right (Nat.le_refl _), Nat.sub_self]
    rfl
  obtain ⟨c, tail, rfl⟩ := List.exists_cons_of_ne_nil hne
  have hfirst : (linkText (c :: tail) destination)[1]? = some c := rfl
  have hc : c ≠ ']' ∧ c ≠ '[' := by
    constructor <;> rintro rfl <;> exact absurd (hlabel _ List.mem_cons_self) (by decide)
  rw [labelAt?, hlength, labelEnd?, hfirst]
  simp only [hc.1, hc.2, false_and, if_false, tokenEnd_linkText definitions hne hlabel]
  rw [labelEnd?, hclose]
  simp

end

/-! ## Pieces -/

section

variable {definitions : Definitions} {text : Text} {fuel stop : Nat} {plain : Text} {pos : Nat}
  {f : Findings}

/-- At the end of the text nothing is left but the plain characters before it. -/
theorem piecesFrom_end (h : (text.take stop).drop pos = []) :
    piecesFrom definitions text fuel stop plain pos f = (plainPiece plain, f) := by
  cases fuel with
  | zero => rfl
  | succ fuel => rw [piecesFrom, h]

/-- Plain characters go on with those before them. -/
theorem piecesFrom_plain {c : Char} {t run : Text} {next : Nat} {f' : Findings}
    (h : (text.take stop).drop pos = c :: t)
    (htoken : tokenAt (tokenEnd definitions (text.take stop) labelDepth) definitions
      (text.take stop) pos c t f = ((.plain run, next), f')) :
    piecesFrom definitions text (fuel + 1) stop plain pos f =
      piecesFrom definitions (text.take stop) fuel stop (plain ++ run) next f' := by
  rw [piecesFrom, h]
  simp only [htoken]

/-- A link is a piece of its own; its label is read before what is behind it. -/
theorem piecesFrom_link {c : Char} {t : Text} {target : Target} {labelStop next : Nat}
    {f' : Findings} (h : (text.take stop).drop pos = c :: t)
    (htoken : tokenAt (tokenEnd definitions (text.take stop) labelDepth) definitions
      (text.take stop) pos c t f = ((.link target labelStop, next), f')) :
    (piecesFrom definitions text (fuel + 1) stop plain pos f).1 =
      plainPiece plain ++
        .span (.link target
          (spansOf (piecesFrom definitions (text.take stop) fuel labelStop [] (pos + 1) f').1)) ::
        (piecesFrom definitions (text.take stop) fuel stop [] next
          (piecesFrom definitions (text.take stop) fuel labelStop [] (pos + 1) f').2).1 := by
  rw [piecesFrom, h]
  simp only [htoken]

end

/-! ## Links -/

section

variable (definitions : Definitions) {label destination : Text} (hne : label ≠ [])
  (hlabel : ∀ c ∈ label, isPlain c = true)

include hne hlabel in
/-- The label is one piece of plain text. -/
theorem piecesFrom_linkLabel {fuel : Nat} (hfuel : 2 ≤ fuel) (f : Findings) :
    (piecesFrom definitions (linkText label destination) fuel (1 + label.length) [] 1 f).1 =
      [.span (.text label)] := by
  obtain ⟨fuel, rfl⟩ := Nat.exists_eq_add_of_le' hfuel
  have hopen : (linkText label destination).take (1 + label.length) = '[' :: label := by
    rw [linkText, Nat.add_comm, List.take_succ_cons, List.take_left]
  have hend : (((linkText label destination).take (1 + label.length)).take (1 + label.length)).drop
      (1 + label.length) = [] :=
    List.drop_eq_nil_of_le (by rw [List.length_take]; omega)
  obtain ⟨c, tail, rfl⟩ := List.exists_cons_of_ne_nil hne
  have htail : (tail ++ []).takeWhile isPlain = tail := by
    rw [List.takeWhile_append_of_pos fun d hd => hlabel d (List.mem_cons_of_mem _ hd)]
    exact List.append_nil tail
  have hfirst : ((linkText (c :: tail) destination).take (1 + (c :: tail).length)).drop 1 =
      c :: (tail ++ []) := by
    rw [hopen, List.append_nil]
    rfl
  rw [piecesFrom_plain hfirst (tokenAt_plain _ _ _ _ hlabel htail f), piecesFrom_end hend]
  rfl

variable (hdest : destination ≠ [])
  (hbare : ∀ c ∈ destination, IsBare c)
  (hallowed : Url.isAllowed (Url.normalize destination) = true)

include hne hlabel hdest hbare hallowed

/-- The link ends where the text does. -/
theorem link?_linkText (depth : Nat) :
    link? (tokenEnd definitions (linkText label destination) (depth + 1)) definitions
        (linkText label destination) 0 {} =
      (some (.link ⟨Url.normalize destination, []⟩ (1 + label.length),
        (linkText label destination).length), { ends := [(1, 1 + label.length)] }) := by
  have hbehind : (linkText label destination).drop (1 + label.length + 1) =
      '(' :: (destination ++ [')']) := by
    have hsplit : linkText label destination =
        ('[' :: (label ++ [']'])) ++ '(' :: (destination ++ [')']) := by
      simp [linkText]
    rw [hsplit, List.drop_left' (by simp; omega)]
  rw [link?, labelAt?_linkText definitions hne hlabel]
  simp only [hbehind, target?_append hdest hbare hallowed, List.head?_cons, if_true]
  simp [linkText]

/-- The text is one link, whose label is plain text. -/
theorem readSpans_linkText :
    readSpans definitions (linkText label destination) =
      [.link ⟨Url.normalize destination, []⟩ [.text label]] := by
  have htoken : ∀ t, tokenAt (tokenEnd definitions
      (linkText label destination) labelDepth) definitions
      (linkText label destination) 0 '[' t {} =
        ((.link ⟨Url.normalize destination, []⟩ (1 + label.length),
          (linkText label destination).length), { ends := [(1, 1 + label.length)] }) := by
    intro t
    rw [tokenAt, labelDepth, link?_linkText definitions hne hlabel hdest hbare hallowed]
    rfl
  have hlength : 2 ≤ (linkText label destination).length := by
    simp [linkText]
    omega
  have hfirst : ((linkText label destination).take (linkText label destination).length).drop 0 =
      '[' :: (label ++ ']' :: '(' :: (destination ++ [')'])) := by
    rw [List.take_length]
    rfl
  have hend : ((linkText label destination).take (linkText label destination).length).drop
      (linkText label destination).length = [] := by
    rw [List.take_length, List.drop_length]
  rw [readSpans, piecesFrom_link hfirst (by rw [List.take_length]; exact htoken _),
    List.take_length, piecesFrom_linkLabel definitions hne hlabel hlength, piecesFrom_end hend]
  rfl

end

end Concordance.Markdown
