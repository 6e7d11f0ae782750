import Concordance.Markdown.Outline
import Concordance.Proofs.Text.Words

/-!
# What a heading says of its running text

Running text is a tree of spans.  Written as one sequence, in which emphasis and links open before
what they hold and close behind it, it is what a heading is told from: the texts, codes and breaks
of the sequence make the title, and each image and each raw tag of it is named, at whatever depth
it stands.

* `plainAll_eq` and `unsupportedAll_eq`: the tree and the sequence tell the same.
* `IsTidy` is a text without blanks at its ends and without doubled ones, and
  `isTidy_joinWith_words` is how one is made.
* `tells_headingOf` puts these together.
-/

namespace Concordance.Markdown

open Text

/-! ## Running text as a sequence -/

/-- What holds spans of its own. -/
inductive Wrapping where
  | emphasis (sign : Char)
  | strong
  | link (target : Target)
  deriving DecidableEq, Repr

/-- A piece of the sequence. -/
inductive SpanEvent where
  | text (t : Text)
  | code (t : Text)
  | softBreak
  | hardBreak
  | markup (t : Text)
  | image (target : Target) (label : Text)
  | opens (wrapping : Wrapping)
  | closes (wrapping : Wrapping)
  deriving DecidableEq, Repr

mutual

/-- A span as a sequence. -/
def Span.events : Span → List SpanEvent
  | .text t => [.text t]
  | .code t => [.code t]
  | .softBreak => [.softBreak]
  | .hardBreak => [.hardBreak]
  | .markup t => [.markup t]
  | .image target label => [.image target label]
  | .emphasis sign body =>
    .opens (.emphasis sign) :: (spanEvents body ++ [.closes (.emphasis sign)])
  | .strong body => .opens .strong :: (spanEvents body ++ [.closes .strong])
  | .link target body => .opens (.link target) :: (spanEvents body ++ [.closes (.link target)])

/-- Spans as a sequence. -/
def spanEvents : List Span → List SpanEvent
  | [] => []
  | s :: ss => s.events ++ spanEvents ss

end

namespace SpanEvent

/-- What a piece adds to a title: its text, or a space for a break. -/
def plain : SpanEvent → Text
  | .text t | .code t => t
  | .softBreak | .hardBreak => [' ']
  | _ => []

/-- What a piece is that a title cannot hold. -/
def unsupported? : SpanEvent → Option Unsupported
  | .image _ _ => some .image
  | .markup _ => some .markup
  | _ => none

end SpanEvent

theorem flatMap_plain_wrapped (w : Wrapping) (es : List SpanEvent) :
    (SpanEvent.opens w :: (es ++ [.closes w])).flatMap SpanEvent.plain =
      es.flatMap SpanEvent.plain := by
  rw [List.flatMap_cons, List.flatMap_append]
  exact List.append_nil (es.flatMap SpanEvent.plain)

theorem filterMap_unsupported_wrapped (w : Wrapping) (es : List SpanEvent) :
    (SpanEvent.opens w :: (es ++ [.closes w])).filterMap SpanEvent.unsupported? =
      es.filterMap SpanEvent.unsupported? := by
  rw [List.filterMap_cons_none rfl, List.filterMap_append]
  exact List.append_nil (es.filterMap SpanEvent.unsupported?)

-- One theorem for each kind of tree; the recursion is that of the sequence.
mutual

theorem Span.plain_eq : ∀ s : Span, s.plain = s.events.flatMap SpanEvent.plain
  | .text t => (List.append_nil t).symm
  | .code t => (List.append_nil t).symm
  | .softBreak => rfl
  | .hardBreak => rfl
  | .markup _ => rfl
  | .image _ _ => rfl
  | .emphasis _ body => by rw [Span.plain, Span.events, flatMap_plain_wrapped, plainAll_eq body]
  | .strong body => by rw [Span.plain, Span.events, flatMap_plain_wrapped, plainAll_eq body]
  | .link _ body => by rw [Span.plain, Span.events, flatMap_plain_wrapped, plainAll_eq body]

/-- The text of spans is that of the pieces, in order. -/
theorem plainAll_eq : ∀ ss : List Span, plainAll ss = (spanEvents ss).flatMap SpanEvent.plain
  | [] => rfl
  | s :: ss => by rw [plainAll, spanEvents, List.flatMap_append, s.plain_eq, plainAll_eq ss]

end

mutual

theorem Span.unsupported_eq : ∀ s : Span, s.unsupported = s.events.filterMap SpanEvent.unsupported?
  | .text _ => rfl
  | .code _ => rfl
  | .softBreak => rfl
  | .hardBreak => rfl
  | .markup _ => rfl
  | .image _ _ => rfl
  | .emphasis _ body => by
    rw [Span.unsupported, Span.events, filterMap_unsupported_wrapped, unsupportedAll_eq body]
  | .strong body => by rw [Span.unsupported, Span.events, filterMap_unsupported_wrapped,
      unsupportedAll_eq body]
  | .link _ body => by rw [Span.unsupported, Span.events, filterMap_unsupported_wrapped,
      unsupportedAll_eq body]

/-- The images and the raw tags in spans are those among the pieces, in order. -/
theorem unsupportedAll_eq :
    ∀ ss : List Span, unsupportedAll ss = (spanEvents ss).filterMap SpanEvent.unsupported?
  | [] => rfl
  | s :: ss => by rw [unsupportedAll, spanEvents, List.filterMap_append, s.unsupported_eq,
      unsupportedAll_eq ss]

end

end Concordance.Markdown

namespace Concordance

open Text Markdown

/-! ## Tidy texts -/

/-- A text with no blank at its ends, and with no blank inside but single spaces. -/
structure Text.IsTidy (t : Text) : Prop where
  ends : trim t = t
  spaces : ∀ c ∈ t, isBlank c = true → c = ' '
  single : ∀ c d, isBlank c = true → isBlank d = true → ¬ [c, d] <:+: t

theorem Text.isTidy_joinWith_words (t : Text) : IsTidy (joinWith [' '] (words t)) := by
  have hspaced : IsSpaced (fun c => !isBlank c) ' ' (joinWith [' '] (words t)) :=
    isSpaced_joinWith_runs _ _ t
  refine ⟨?_, ?_, ?_⟩
  · exact trim_of_ends (fun c hc => by simpa using hspaced.head hc) fun c hc => by
      simpa using hspaced.last hc
  · intro c hc hblank
    rcases hspaced.mem hc with hword | hspace
    · simp [hblank] at hword
    · exact hspace
  · intro c d hc hd hinfix
    have hpair : [c, d].IsChain fun c d => (!isBlank c) = true ∨ (!isBlank d) = true :=
      List.IsChain.infix hspaced.isChain hinfix
    simp [hc, hd] at hpair

theorem Text.words_joinWith_words (t : Text) : words (joinWith [' '] (words t)) = words t :=
  runs_joinWith (by decide) fun _ hw => ⟨ne_nil_of_mem_runs hw, mem_runs hw⟩

/-! ## Headings -/

/-- A heading that says what its running text does: its title is tidy and has the words of the
running text, and each image and each raw tag is named, in order. -/
structure Heading.Tells (h : Heading) (pieces : List SpanEvent) : Prop where
  tidy : IsTidy h.text
  words : words h.text = words (pieces.flatMap SpanEvent.plain)
  unsupported : h.unsupported = (pieces.filterMap SpanEvent.unsupported?).map Unsupported.name

theorem tells_headingOf (line : Option Int) (level : Nat) (spans : List Span) :
    (headingOf line level spans).Tells (spanEvents spans) where
  tidy := isTidy_joinWith_words (plainAll spans)
  words := by
    rw [← plainAll_eq]
    exact words_joinWith_words (plainAll spans)
  unsupported := by rw [headingOf, unsupportedAll_eq]

end Concordance
