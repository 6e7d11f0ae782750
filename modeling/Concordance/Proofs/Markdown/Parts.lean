import Concordance.Proofs.Markdown.Lists
import Concordance.Proofs.Markdown.MarkupBlocks
import Concordance.Proofs.Markdown.Quotes

/-!
# Documents in parts

A document that is put together from passages, headings, breaks, quotes, lists, raw markup and code
tells where its code stands before any block of it is read.

* `Part` is such a part, and `areProper` says that each is read as one.
* `codes` is the code of parts, and `codeLines` are the numbers of the lines it is made of.
* `begins_parts`: the first code of a document is that of the parts at its front, whatever stands
  behind them.
-/

namespace Concordance.Markdown

open Text

/-! ## Parts -/

/-- A part of a document. -/
inductive Part where
  /-- Lines of tables, paragraphs, headings, breaks and definitions, and an empty one behind
  them. -/
  | passage (lines : List Text)
  | heading (line : Text)
  /-- The lines of a heading, and the signs below them. -/
  | underlined (first : Text) (more : List Text) (underline : Text)
  | rule (line : Text)
  /-- The lines of a quote, those behind it that may go on with it, and an empty one. -/
  | quote (first : Text) (more behind : List Text)
  /-- The lines of a list, and an empty one behind them. -/
  | list (style : ListStyle) (first : Text) (more : List Text)
  /-- The lines of raw markup, and an empty one behind them. -/
  | markup (first : Text) (more : List Text)
  /-- The lines of raw markup up to the mark that ends it. -/
  | closed (first : Text) (more : List Text)
  | fenced (opening : Text) (body : List Text) (closing : Text)
  /-- The lines of indented code, without the indentation. -/
  | indented (first : Text) (more : List Text)
  deriving DecidableEq, Repr

namespace Part

/-- The lines of a part. -/
def lines : Part → List Text
  | passage ts => ts ++ [[]]
  | heading t => [t]
  | underlined first more underline => first :: (more ++ [underline])
  | rule t => [t]
  | quote first more behind => first :: (more ++ (behind ++ [[]]))
  | list _ first more => first :: (more ++ [[]])
  | markup first more => first :: (more ++ [[]])
  | closed first more => first :: more
  | fenced opening body closing => opening :: (body ++ [closing])
  | indented first more => (first :: more).map indentCode

/-- Whether the lines of a part are read as one, if the lines behind a list or indented code end
it. -/
def isProper : Part → Bool
  | passage ts => isPassage ts
  | heading t => (signedHeading? t).isSome && !t.contains '|'
  | underlined first more underline =>
    (first :: more).all (fun t => isRunning (.ofText 0 t true)) && (underline? underline).isSome
  | rule t => isBreakText t
  | quote first more behind =>
    (first :: more).all isQuoted && (!first.contains '|' || more ≠ []) && isPassage behind
  | list style first more =>
    style.opensItem (.ofText 0 first true) && !first.contains '|' &&
      more.all fun t => style.opensItem (.ofText 0 t true) || style.isBelow t
  | markup first more =>
    ((markupEnd? first).any fun (e, _) => e = .emptyLine) && !first.contains '|' &&
      more.all isSolid
  | closed first more =>
    ((markupEnd? first).any fun (e, _) => isClosed e (first :: more)) && !first.contains '|'
  | fenced opening body closing =>
    !opening.contains '|' && (openFence? opening).any fun (m, length, _) =>
      body.all (fun t => !endsFence m length (.ofText 0 t true)) &&
        (closing.head? == some m && closesFence m length closing)
  | indented first more => isSolid first && more.getLast?.all isSolid

/-- Which lines a part takes behind empty ones, if it may go on there. -/
def goesOn? : Part → Option (Line → Bool)
  | list style _ _ => some style.goesOn
  | indented _ _ => some fun l => l.isEmpty || ({} : Container).isCode l
  | _ => none

/-- Whether a part ends before the lines behind it. -/
def isEndedBy (p : Part) (ts : List Text) : Bool :=
  p.goesOn?.all fun goesOn =>
    (ts.dropWhile List.isEmpty).head?.any fun t => !goesOn (.ofText 0 t true)

/-- The language that an opening fence names. -/
def language (opening : Text) : Text :=
  (openFence? opening).elim [] fun (_, _, info) => (words info).headD []

/-- The code that a part is whose first line has the number `n`. -/
def code (n : Nat) : Part → List Paragraph
  | fenced opening body _ => [.code (language opening) (unlines (body ++ [[]])) (some (n + 1))]
  | indented first more => [.code [] (unlines (first :: more ++ [[]])) (some (n + 1))]
  | _ => []

/-- The numbers of the lines that the code of a part is made of. -/
def codeLines (n : Nat) : Part → List Nat
  | fenced _ body _ => List.range' (n + 1) body.length
  | indented _ more => List.range' n (more.length + 1)
  | _ => []

end Part

/-- Whether each part is read as one where they stand behind each other. -/
def areProper : List Part → Bool
  | [] => true
  | p :: ps => p.isProper && p.isEndedBy (ps.flatMap Part.lines) && areProper ps

/-- The code of parts, the first of which begins with the line number `n`. -/
def codes (n : Nat) : List Part → List Paragraph
  | [] => []
  | p :: ps => p.code n ++ codes (n + p.lines.length) ps

/-- The numbers of the lines that the code of parts is made of. -/
def codeLines (n : Nat) : List Part → List Nat
  | [] => []
  | p :: ps => p.codeLines n ++ codeLines (n + p.lines.length) ps

/-! ## Reading parts -/

/-- Whether a part that may go on over empty lines is ended by a line behind them. -/
def EndedBy (p : Part) (ls : List Line) : Prop :=
  ∀ goesOn, p.goesOn? = some goesOn → ∃ es s rest, ls = es ++ s :: rest ∧
    (∀ e ∈ es, e.isEmpty = true ∧ '\n' ∉ e.text) ∧ goesOn s = false

/-- The number of a line has no part in it. -/
theorem goesOn_ofText {p : Part} {goesOn : Line → Bool} (h : p.goesOn? = some goesOn) (n : Nat)
    (t : Text) : goesOn (.ofText n t true) = goesOn (.ofText 0 t true) := by
  cases p with
  | list style first more =>
    obtain rfl : style.goesOn = goesOn := Option.some.inj h
    rfl
  | indented first more =>
    rw [← Option.some.inj h]
    rfl
  | _ => simp [Part.goesOn?] at h

theorem endedBy_of_isEndedBy {p : Part} {ts : List Text} (h : p.isEndedBy ts = true) (n : Nat)
    (rest : List Line) : EndedBy p (numbered n ts ++ rest) := by
  intro goesOn hp
  rw [Part.isEndedBy, hp, Option.all_some] at h
  induction ts generalizing n with
  | nil => exact Bool.noConfusion h
  | cons t ts ih =>
    rw [List.dropWhile_cons] at h
    split at h
    · rename_i hempty
      obtain rfl := List.isEmpty_iff.1 hempty
      obtain ⟨es, s, rest', hlines, hes, hs⟩ := ih (n + 1) h
      refine ⟨.ofText n [] true :: es, s, rest', congrArg (_ :: ·) hlines, fun e he => ?_, hs⟩
      rcases List.mem_cons.1 he with rfl | he
      · exact ⟨rfl, List.not_mem_nil⟩
      · exact hes e he
    · rw [List.head?_cons, Option.any_some, Bool.not_eq_true', ← goesOn_ofText hp n] at h
      exact ⟨[], .ofText n t true, numbered (n + 1) ts ++ rest, rfl, by simp, h⟩

theorem endsCode_of_endedBy {first : Text} {more : List Text} {ls : List Line}
    (h : EndedBy (.indented first more) ls) : endsCode ls := by
  obtain ⟨es, s, rest, rfl, hes, hs⟩ := h _ rfl
  rw [Bool.or_eq_false_iff] at hs
  intro l hl
  rw [List.dropWhile_append_of_pos fun e he => (hes e he).1, List.dropWhile_cons, hs.1] at hl
  rw [← Option.some.inj hl, hs.2]

section

variable {quoteBody : Reader} {depth : Nat} (hdepth : 18 ≤ depth)
  (hbody : ∀ ls : List Line, (∀ l ∈ ls, '\n' ∉ l.text) → Stops {} ls [] (quoteBody {} ls).used)

include hdepth hbody

/-- A part with code in it comes before the code of the lines behind it. -/
theorem begins_part {p : Part} (hp : p.isProper = true) (hfeed : ∀ l ∈ p.lines, '\n' ∉ l) (n : Nat)
    {ls : List Line} {cs : List Paragraph} (hends : EndedBy p ls)
    (h : Begins (readBlock quoteBody (reader depth)) ls cs) :
    Begins (readBlock quoteBody (reader depth)) (numbered n p.lines ++ ls) (p.code n ++ cs) := by
  have hplain {t : Text} (ht : (!t.contains '|') = true) : '|' ∉ t := fun hmem => by
    rw [List.contains_iff_mem.2 hmem] at ht
    exact Bool.noConfusion ht
  cases p with
  | passage ts =>
    rw [Part.lines, numbered_append, List.append_assoc]
    exact begins_passage n hp (fun t ht => hfeed t (List.mem_append_left _ ht)) rfl h
  | heading t =>
    rw [Part.isProper, Bool.and_eq_true] at hp
    exact begins_heading n hp.1 (hplain hp.2) h
  | underlined first more underline =>
    rw [Part.isProper, Bool.and_eq_true] at hp
    exact begins_underlined n hp.1 hp.2 h
  | rule t => exact begins_rule n hp h
  | quote first more behind =>
    rw [Part.isProper, Bool.and_eq_true, Bool.and_eq_true, Bool.or_eq_true,
      decide_eq_true_eq] at hp
    obtain ⟨⟨hquoted, hbar⟩, hbehind⟩ := hp
    refine begins_quote hbody n hquoted (hbar.imp_left hplain) hbehind (fun t ht => hfeed t ?_) h
    rw [Part.lines, ← List.cons_append, ← List.append_assoc]
    exact List.mem_append_left _ ht
  | list style first more =>
    simp only [Part.isProper, Bool.and_eq_true, List.all_eq_true, Bool.or_eq_true] at hp
    obtain ⟨⟨hfirst, hbar⟩, hmore⟩ := hp
    refine begins_list n hdepth hfirst (hplain hbar) hmore (fun t ht => hfeed t ?_)
      (hends _ rfl) h
    rw [Part.lines, ← List.cons_append]
    exact List.mem_append_left _ ht
  | markup first more =>
    rw [Part.isProper, Bool.and_eq_true, Bool.and_eq_true, Option.any_eq_true] at hp
    obtain ⟨⟨⟨⟨e, interrupts⟩, hfirst, hend⟩, hbar⟩, hmore⟩ := hp
    obtain rfl : e = .emptyLine := of_decide_eq_true hend
    exact begins_markup hfirst (hplain hbar) hmore n h
  | closed first more =>
    rw [Part.isProper, Bool.and_eq_true, Option.any_eq_true] at hp
    obtain ⟨⟨⟨e, interrupts⟩, hfirst, hclosed⟩, hbar⟩ := hp
    exact begins_closed hfirst (hplain hbar) n hclosed h
  | fenced opening body closing =>
    rw [Part.isProper, Bool.and_eq_true, Option.any_eq_true] at hp
    obtain ⟨hbar, ⟨m, length, info⟩, hopening, hfence⟩ := hp
    rw [Bool.and_eq_true, Bool.and_eq_true, List.all_eq_true, beq_iff_eq] at hfence
    have hinside : ∀ t ∈ body, endsFence m length (.ofText 0 t true) = false := fun t ht =>
      by simpa using hfence.1 t ht
    have hread := begins_fenced n hopening (hplain hbar) hinside hfence.2.1 hfence.2.2 h
    rw [Part.lines, Part.code, Part.language, hopening]
    exact hread
  | indented first more =>
    rw [Part.isProper, Bool.and_eq_true] at hp
    have hlast : ∀ t ∈ more.getLast?, isSolid t = true := fun t ht => by
      rw [Option.mem_def.1 ht] at hp
      exact hp.2
    exact begins_indented n hp.1 hlast (endsCode_of_endedBy hends) h

/-- The first code of a document is that of the parts at its front, whatever stands behind them. -/
theorem begins_parts {ps : List Part} (hps : areProper ps = true)
    (hfeed : ∀ l ∈ ps.flatMap Part.lines, '\n' ∉ l) (n : Nat) (rest : List Line) :
    Begins (readBlock quoteBody (reader depth)) (numbered n (ps.flatMap Part.lines) ++ rest)
      (codes n ps) := by
  induction ps generalizing n with
  | nil => exact begins_nil _ _
  | cons p ps ih =>
    rw [areProper, Bool.and_eq_true, Bool.and_eq_true] at hps
    obtain ⟨⟨hp, hends⟩, hps⟩ := hps
    rw [List.flatMap_cons, List.forall_mem_append] at hfeed
    rw [List.flatMap_cons, numbered_append, List.append_assoc]
    exact begins_part hdepth hbody hp hfeed.1 n (endedBy_of_isEndedBy hends _ rest)
      (ih hps hfeed.2 (n + p.lines.length))

end

/-- The first code of an outline is that of the parts at the front of the text. -/
theorem codes_isPrefix_outline {t : Text} (hzero : ∀ l ∈ lines t, '\x00' ∉ l) {ps : List Part}
    {rest : List Text} (hlines : lines t = ps.flatMap Part.lines ++ rest) (hrest : rest ≠ [])
    (hps : areProper ps = true) : codes 0 ps <+: (outline t).filter Paragraph.isCode := by
  rw [filter_isCode_outline, blocks, ofDocument_prepare hzero, hlines, ofPieces_append 0 _ hrest]
  have hfeed : ∀ l ∈ ps.flatMap Part.lines, '\n' ∉ l := fun l hl =>
    (isLine_of_mem_lines (hlines ▸ List.mem_append_left _ hl)).2
  have hbody : ∀ ls : List Line, (∀ l ∈ ls, '\n' ∉ l.text) →
      Stops {} ls [] (reader 19 {} ls).used := by
    intro ls hls
    have hstops := reader_stops 19 hls (Halts.nil {} ls) (Or.inl rfl)
    rwa [List.append_nil] at hstops
  exact begins_parts (Nat.le_refl 18) hbody hps hfeed
    0 _ _ _ _ (Nat.lt_succ_of_le List.countP_le_length)

end Concordance.Markdown
