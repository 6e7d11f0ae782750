import Concordance.Proofs.Notation.Syntax
import Concordance.Proofs.Text.Pieces

/-!
# The canonical form of a tree

The canonical form of a right-hand side is written token by token, and the rendering of a tree
construct by construct.  `Writes` follows both at once over a run of tokens.

* `Alternative.writes`: the tokens of an alternative are in an order that the notation allows, and
  their canonical form is the rendered alternative; the same for atoms and elements, by induction
  on the tree.
* `Rule.tokens_production`: so the tokens of a rule state the production that is rendered for it.
-/

namespace Concordance.Notation

variable {p q : Place} {ks js : List Token} {w v : Text}

/-! ## Writing tokens -/

/-- Tokens that lead over a right-hand side from one place to another, and their canonical form. -/
structure Writes (p : Place) (ks : List Token) (q : Place) (w : Text) : Prop where
  runs : orderly.Runs p ks q
  closed : ∀ k ∈ ks, k.kind ≠ .semicolon
  text : ∀ js, canonicalFrom p (ks ++ js) = w ++ canonicalFrom q js

theorem Writes.nil (p : Place) : Writes p [] p [] :=
  ⟨.nil, by simp, fun _ => rfl⟩

theorem Writes.append {r : Place} (h : Writes p ks q w) (h' : Writes q js r v) :
    Writes p (ks ++ js) r (w ++ v) := by
  refine ⟨h.runs.append h'.runs, ?_, fun is => ?_⟩
  · intro k hk
    rcases List.mem_append.1 hk with hk | hk
    · exact h.closed k hk
    · exact h'.closed k hk
  · rw [List.append_assoc, h.text, h'.text, List.append_assoc]

theorem Writes.token {k : Token} (hn : p.next? k.kind = some q) (hp : p.phase.inBody = true)
    (hk : k.IsLexeme) (hsemi : k.kind ≠ .semicolon) :
    Writes p [k] q ((if p.phase.spaceBefore k.kind then [' '] else []) ++ k.canonical) := by
  refine ⟨.cons hn hk ?_ .nil, by simpa using hsemi, fun js => ?_⟩
  · intro _ j hj ha
    obtain ⟨p', hp'⟩ := Option.isSome_iff_exists.1 ha
    rcases Place.next?_stays hp' hp with ⟨rfl, -⟩ | ⟨hbody, -⟩
    · simp at hj
    · rcases hj with rfl | rfl <;> simp [Terminal.inBody] at hbody
  · rw [List.singleton_append, canonicalFrom, hn, Option.getD_some]

/-- The terminals whose canonical form is their lexeme, but for the semicolon. -/
def Terminal.plain : Terminal → Bool
  | .options | .bar | .semicolon => false
  | _ => true

theorem canonical_of_plain {k : Terminal} (h : k.plain = true) (v : Text) :
    Token.canonical ⟨k, v⟩ = v := by
  cases k <;> first | contradiction | rfl

/-- A token before which no space stands. -/
theorem writes_plain {k : Terminal} (hk : k.Matches v) (hn : p.next? k = some q)
    (hplain : k.plain = true) (hp : p.phase.inBody = true)
    (hspace : p.phase.spaceBefore k = false) : Writes p [⟨k, v⟩] q v := by
  have hsemi : k ≠ .semicolon := by
    rintro rfl
    contradiction
  have h := Writes.token (k := ⟨k, v⟩) hn hp hk hsemi
  simp only [hspace, canonical_of_plain hplain] at h
  exact h

/-- Tokens that lead to a place of the same depth, in one of some phases. -/
def WritesTo (reached : Phase → Bool) (p : Place) (ks : List Token) (w : Text) : Prop :=
  ∃ ph, reached ph = true ∧ Writes p ks ⟨ph, p.depth⟩ w

theorem WritesTo.append {P Q : Phase → Bool} (h : WritesTo P p ks w)
    (h' : ∀ ph, P ph = true → WritesTo Q ⟨ph, p.depth⟩ js v) :
    WritesTo Q p (ks ++ js) (w ++ v) := by
  obtain ⟨ph, hph, hks⟩ := h
  obtain ⟨ph', hph', hjs⟩ := h' ph hph
  exact ⟨ph', hph', hks.append hjs⟩

/-! ## Phases -/

/-- Where a part of an alternative may begin. -/
def Phase.beforePart : Phase → Bool
  | .start | .finished | .named | .literal | .element | .elementOptions => true
  | _ => false

/-- Where an atom may begin. -/
def Phase.beforeAtom : Phase → Bool
  | .atom => true
  | ph => ph.beforePart

/-- Behind an atom without its options. -/
def Phase.behindAtom : Phase → Bool
  | .named | .literal | .element => true
  | _ => false

/-- Behind an atom, with its options or without. -/
def Phase.behindOptions : Phase → Bool
  | .elementOptions => true
  | ph => ph.behindAtom

/-- Behind an element. -/
def Phase.behindElement : Phase → Bool
  | .finished => true
  | ph => ph.behindOptions

/-- Behind a command. -/
def Phase.behindCommand : Phase → Bool
  | .commandName | .commandEnd => true
  | _ => false

/-- Where the commands of an alternative may begin. -/
def Phase.beforeCommands : Phase → Bool
  | .alternativeLabel => true
  | ph => ph.beforePart

/-- Where an alternative may end. -/
def Phase.mayClose : Phase → Bool
  | .alternativeLabel | .commandName | .commandEnd => true
  | ph => ph.beforePart

/-- The space before the next part. -/
def Place.gap (p : Place) : Text :=
  match p.phase with
  | .start | .atom => []
  | _ => [' ']

theorem inBody_of_beforeAtom {ph : Phase} (h : ph.beforeAtom = true) : ph.inBody = true := by
  cases ph <;> first | rfl | contradiction

theorem inBody_of_mayClose {ph : Phase} (h : ph.mayClose = true) : ph.inBody = true := by
  cases ph <;> first | rfl | contradiction

theorem beforeAtom_of_beforePart {ph : Phase} (h : ph.beforePart = true) :
    ph.beforeAtom = true := by
  cases ph <;> first | rfl | contradiction

theorem beginsPart_of_atom? {k : Terminal} (h : p.atom? k = some q) : k.beginsPart = true := by
  cases k <;> simp [Place.atom?] at h <;> rfl

theorem next?_opener {k : Terminal} (hp : p.phase.beforeAtom = true) (hk : p.atom? k = some q)
    (hname : k ≠ .name) : p.next? k = some q := by
  obtain ⟨ph, d⟩ := p
  rw [← hk]
  cases k <;> simp [Place.atom?] at hk hname <;> cases ph <;> first | contradiction | rfl

theorem next?_name (hp : p.phase.beforePart = true) : p.next? .name = some ⟨.named, p.depth⟩ := by
  obtain ⟨ph, d⟩ := p
  cases ph <;> first | contradiction | rfl

/-- Before an atom a space stands exactly at the places that have a gap. -/
theorem spaceBefore_opener {k : Terminal} (hp : p.phase.beforeAtom = true)
    (hk : k.beginsPart = true) : (if p.phase.spaceBefore k then [' '] else []) = p.gap := by
  obtain ⟨ph, d⟩ := p
  cases ph <;> simp [Phase.beforeAtom, Phase.beforePart] at hp <;>
    simp [Phase.spaceBefore, Place.gap, hk]

/-! ## Atoms -/

theorem writes_opener {k : Terminal} (hk : k.Matches v) (ha : p.atom? k = some q)
    (hp : p.phase.beforeAtom = true) (hname : k ≠ .name) : Writes p [⟨k, v⟩] q (p.gap ++ v) := by
  have hbegins := beginsPart_of_atom? ha
  have hplain : k.plain = true := by
    cases k <;> first | contradiction | rfl
  have hsemi : k ≠ .semicolon := by
    rintro rfl
    contradiction
  have h :=
    Writes.token (k := ⟨k, v⟩) (next?_opener hp ha hname) (inBody_of_beforeAtom hp) hk hsemi
  simp only [canonical_of_plain hplain] at h
  rwa [spaceBefore_opener hp hbegins] at h

/-- A name before which an atom or a label may begin: behind it another part may begin. -/
theorem writes_name {n : Lexeme .name} (hp : p.phase.beforePart = true) :
    Writes p [Lexeme.token n] ⟨.named, p.depth⟩ (p.gap ++ n.1) := by
  have hatom := beforeAtom_of_beforePart hp
  rw [← spaceBefore_opener hatom (rfl : Terminal.name.beginsPart = true)]
  exact .token (next?_name hp) (inBody_of_beforeAtom hatom) n.2 (by simp [Lexeme.token])

theorem writes_ref (n : Lexeme .name) (hp : p.phase.beforeAtom = true) :
    WritesTo Phase.behindAtom p [Lexeme.token n] (p.gap ++ n.1) := by
  by_cases hpart : p.phase.beforePart = true
  · exact ⟨.named, rfl, writes_name hpart⟩
  · obtain ⟨ph, d⟩ := p
    obtain rfl : ph = .atom := by
      cases ph <;> first | rfl | contradiction
    exact ⟨.element, rfl, writes_plain n.2 rfl rfl rfl rfl⟩

theorem writes_range (v w : Lexeme .literal) (hp : p.phase.beforeAtom = true) :
    WritesTo Phase.behindAtom p [Lexeme.token v, Terminal.token .dots, Lexeme.token w]
      (p.gap ++ (v.1 ++ "..".toList ++ w.1)) := by
  have hfirst : Writes p [Lexeme.token v] ⟨.literal, p.depth⟩ (p.gap ++ v.1) :=
    writes_opener v.2 rfl hp (by decide)
  have hdots : Writes ⟨.literal, p.depth⟩ [Terminal.token .dots] ⟨.dots, p.depth⟩ "..".toList :=
    writes_plain rfl rfl rfl rfl rfl
  have hlast : Writes ⟨.dots, p.depth⟩ [Lexeme.token w] ⟨.element, p.depth⟩ w.1 :=
    writes_plain w.2 rfl rfl rfl rfl
  have h := (hfirst.append hdots).append hlast
  simp only [List.append_assoc] at h ⊢
  exact ⟨.element, rfl, h⟩

theorem writes_closeParen {d : Nat} {ph : Phase} (h : ph.mayClose = true) :
    Writes ⟨ph, d + 1⟩ [Terminal.token .closeParen] ⟨.element, d⟩ [')'] := by
  have hn : Place.next? ⟨ph, d + 1⟩ .closeParen = some ⟨.element, d⟩ := by
    cases ph <;> first | contradiction | rfl
  have hspace : ph.spaceBefore .closeParen = false := by
    cases ph <;> first | contradiction | rfl
  exact writes_plain rfl hn rfl (inBody_of_mayClose h) hspace

theorem writes_bar {d : Nat} {ph : Phase} (h : ph.mayClose = true) :
    Writes ⟨ph, d⟩ [Terminal.token .bar] ⟨.start, d⟩ " | ".toList := by
  have hn : Place.next? ⟨ph, d⟩ .bar = some ⟨.start, d⟩ := by
    cases ph <;> first | contradiction | rfl
  have hspace : ph.spaceBefore .bar = false := by
    cases ph <;> first | contradiction | rfl
  have hbar := Writes.token (k := Terminal.token .bar) hn (inBody_of_mayClose h) rfl (by decide)
  have htext : (if ph.spaceBefore .bar then [' '] else []) ++ (Terminal.token .bar).canonical =
      " | ".toList := by
    rw [hspace]
    rfl
  rw [← htext]
  exact hbar

/-! ## Parts of an alternative -/

/-- Parts with single spaces between them, and what is given before the first one. -/
def lead (g : Text) : List Text → Text
  | [] => []
  | w :: ws => g ++ w ++ lead [' '] ws

theorem lead_append (g : Text) (ws vs : List Text) :
    lead g (ws ++ vs) = lead g ws ++ lead (if ws.isEmpty then g else [' ']) vs := by
  induction ws generalizing g with
  | nil => rfl
  | cons w ws ih =>
    have hgap : (if ws.isEmpty then [' '] else [' ']) = [' '] := ite_self _
    rw [List.cons_append, lead, ih, hgap, lead, List.append_assoc _ (lead [' '] ws)]
    rfl

theorem joinWith_eq_flatMap (sep w : Text) (ws : List Text) :
    Text.joinWith sep (w :: ws) = w ++ ws.flatMap (sep ++ ·) := by
  induction ws generalizing w with
  | nil => simp [Text.joinWith]
  | cons v ws ih =>
    rw [Text.joinWith_cons_cons, ih, List.flatMap_cons, List.append_assoc, List.append_assoc]

theorem lead_eq_flatMap (ws : List Text) : lead [' '] ws = ws.flatMap ([' '] ++ ·) := by
  induction ws with
  | nil => rfl
  | cons w ws ih => rw [lead, ih, List.flatMap_cons]

theorem joinWith_eq_lead (ws : List Text) : Text.joinWith [' '] ws = lead [] ws := by
  cases ws with
  | nil => rfl
  | cons w ws => rw [joinWith_eq_flatMap, lead, lead_eq_flatMap, List.nil_append]

/-- Tokens of whole parts, and the parts. -/
def WritesParts (reached : Phase → Bool) (p : Place) (ks : List Token) (ws : List Text) : Prop :=
  ∃ ph, reached ph = true ∧ Writes p ks ⟨ph, p.depth⟩ (lead p.gap ws) ∧
    Place.gap ⟨ph, p.depth⟩ = if ws.isEmpty then p.gap else [' ']

theorem WritesParts.append {P Q : Phase → Bool} {ws vs : List Text} (h : WritesParts P p ks ws)
    (h' : ∀ ph, P ph = true → WritesParts Q ⟨ph, p.depth⟩ js vs) :
    WritesParts Q p (ks ++ js) (ws ++ vs) := by
  obtain ⟨ph, hph, hks, hgap⟩ := h
  obtain ⟨ph', hph', hjs, hgap'⟩ := h' ph hph
  rw [hgap] at hjs hgap'
  refine ⟨ph', hph', ?_, ?_⟩
  · rw [lead_append]
    exact hks.append hjs
  · rw [hgap']
    cases ws <;> cases vs <;> rfl

theorem WritesParts.nil {P : Phase → Bool} (h : P p.phase = true) : WritesParts P p [] [] :=
  ⟨p.phase, h, .nil p, rfl⟩

theorem Writes.part {P : Phase → Bool} {ph : Phase} (h : Writes p ks ⟨ph, p.depth⟩ (p.gap ++ w))
    (hph : P ph = true) (hgap : Place.gap ⟨ph, p.depth⟩ = [' ']) : WritesParts P p ks [w] := by
  refine ⟨ph, hph, ?_, hgap⟩
  rwa [lead, lead, List.append_nil]

/-! ## Elements -/

theorem writes_options {o : OptionList} (hn : p.next? .options = some q)
    (hp : p.phase.inBody = true) (hspace : p.phase.spaceBefore .options = false) :
    Writes p [OptionList.token o] q o.1 := by
  have hcanonical : (OptionList.token o).canonical = o.1 :=
    List.filter_eq_self.2 fun c hc => by simp [o.2.2 c hc]
  have h := Writes.token (k := OptionList.token o) hn hp o.2.1 (by simp [OptionList.token])
  rw [hcanonical] at h
  have hspace : p.phase.spaceBefore (OptionList.token o).kind = false := hspace
  rwa [hspace] at h

/-- Behind a label an atom follows directly; without one it follows where the label would. -/
theorem writes_label (l : Option Label) (hp : p.phase.beforePart = true) :
    ∃ q v, Writes p ((l.map Label.tokens).getD []) q v ∧ q.phase.beforeAtom = true ∧
      q.depth = p.depth ∧ v ++ q.gap = p.gap ++ (l.map Label.render).getD [] := by
  cases l with
  | none =>
    exact ⟨p, [], .nil p, beforeAtom_of_beforePart hp, rfl, by simp⟩
  | some l =>
    have hsign : Writes ⟨.named, p.depth⟩ [Lexeme.token l.sign] ⟨.atom, p.depth⟩ l.sign.1 :=
      writes_plain l.sign.2 rfl rfl rfl rfl
    refine ⟨⟨.atom, p.depth⟩, _, (writes_name hp).append hsign, rfl, rfl, ?_⟩
    simp [Place.gap, Label.render]

theorem writes_suffix (s : Option (Lexeme .suffix)) (hp : p.phase.behindOptions = true) :
    WritesTo Phase.behindElement p (s.map Lexeme.token).toList ((s.map (·.1)).getD []) := by
  obtain ⟨ph, d⟩ := p
  cases s with
  | none =>
    refine ⟨ph, ?_, .nil _⟩
    cases ph <;> first | contradiction | rfl
  | some s =>
    refine ⟨.finished, rfl, ?_⟩
    cases ph <;> first | contradiction | exact writes_plain s.2 rfl rfl rfl rfl

theorem writes_elementOptions (o : Option OptionList) (hp : p.phase.behindAtom = true) :
    WritesTo Phase.behindOptions p (o.map OptionList.token).toList ((o.map (·.1)).getD []) := by
  obtain ⟨ph, d⟩ := p
  cases o with
  | none =>
    refine ⟨ph, ?_, .nil _⟩
    cases ph <;> first | contradiction | rfl
  | some o =>
    refine ⟨.elementOptions, rfl, ?_⟩
    cases ph <;> first | contradiction | exact writes_options rfl rfl rfl

/-! ## Labels and commands of alternatives -/

theorem beforePart_of_behindElement {ph : Phase} (h : ph.behindElement = true) :
    ph.beforePart = true ∧ ∀ d, Place.gap ⟨ph, d⟩ = [' '] := by
  cases ph <;> first | contradiction | exact ⟨rfl, fun _ => rfl⟩

theorem writes_alternativeOptions (o : Option OptionList) (d : Nat) :
    WritesParts Phase.beforePart ⟨.start, d⟩ (o.map OptionList.token).toList
      (o.map (·.1)).toList := by
  cases o with
  | none => exact .nil rfl
  | some o =>
    have h : Writes ⟨.start, d⟩ [OptionList.token o] ⟨.finished, d⟩ o.1 :=
      writes_options rfl rfl rfl
    exact Writes.part h rfl rfl

theorem writes_alternativeLabel (l : Option (Lexeme .name)) (hp : p.phase.beforePart = true) :
    WritesParts Phase.beforeCommands p (labelTokens l) (l.map ('#' :: ·.1)).toList := by
  obtain ⟨ph, d⟩ := p
  cases l with
  | none =>
    refine .nil ?_
    cases ph <;> first | contradiction | rfl
  | some n =>
    have hhash : Writes ⟨ph, d⟩ [Terminal.token .hash] ⟨.hash, d⟩
        (Place.gap ⟨ph, d⟩ ++ ['#']) := by
      cases ph <;> first | contradiction | exact .token rfl rfl rfl (by decide)
    have hname : Writes ⟨.hash, d⟩ [Lexeme.token n] ⟨.alternativeLabel, d⟩ n.1 :=
      writes_plain n.2 rfl rfl rfl rfl
    have h := hhash.append hname
    rw [List.append_assoc] at h
    exact Writes.part h rfl rfl

theorem Command.writes (c : Command) (d : Nat) :
    WritesTo Phase.behindCommand ⟨.command, d⟩ c.tokens (' ' :: c.render) := by
  obtain ⟨name, argument⟩ := c
  have hname : Writes ⟨.command, d⟩ [Lexeme.token name] ⟨.commandName, d⟩ (' ' :: name.1) :=
    .token rfl rfl name.2 (by simp [Lexeme.token])
  cases argument with
  | none =>
    refine ⟨.commandName, rfl, ?_⟩
    rw [Command.render, List.append_nil]
    exact hname
  | some n =>
    have hopen : Writes ⟨.commandName, d⟩ [Terminal.token .openParen] ⟨.argument, d⟩ ['('] :=
      writes_plain rfl rfl rfl rfl rfl
    have hargument : Writes ⟨.argument, d⟩ [Lexeme.token n] ⟨.argumentName, d⟩ n.1 :=
      writes_plain n.2 rfl rfl rfl rfl
    have hclose : Writes ⟨.argumentName, d⟩ [Terminal.token .closeParen] ⟨.commandEnd, d⟩ [')'] :=
      writes_plain rfl rfl rfl rfl rfl
    exact ⟨.commandEnd, rfl, hname.append (hopen.append (hargument.append hclose))⟩

theorem writes_moreCommands (cs : List Command) (hp : p.phase.behindCommand = true) :
    WritesTo Phase.behindCommand p (commandTokens .comma cs)
      ((cs.map Command.render).flatMap (", ".toList ++ ·)) := by
  induction cs generalizing p with
  | nil => exact ⟨p.phase, hp, .nil p⟩
  | cons c cs ih =>
    obtain ⟨ph, d⟩ := p
    have hcomma : Writes ⟨ph, d⟩ [Terminal.token .comma] ⟨.command, d⟩ [','] := by
      cases ph <;> first | contradiction | exact writes_plain rfl rfl rfl rfl rfl
    obtain ⟨ph', hph', hcommands⟩ := (c.writes d).append fun ph h => ih h
    refine ⟨ph', hph', ?_⟩
    have h := hcomma.append hcommands
    rw [List.map_cons, List.flatMap_cons, List.append_assoc]
    exact h

theorem writes_commands (cs : List Command) (hp : p.phase.beforeCommands = true) :
    WritesParts Phase.mayClose p (commandTokens .arrow cs) (renderCommands cs) := by
  obtain ⟨ph, d⟩ := p
  cases cs with
  | nil =>
    refine .nil ?_
    cases ph <;> first | contradiction | rfl
  | cons c cs =>
    have harrow : Writes ⟨ph, d⟩ [Terminal.token .arrow] ⟨.command, d⟩
        (Place.gap ⟨ph, d⟩ ++ ['-', '>']) := by
      cases ph <;> first | contradiction | exact .token rfl rfl rfl (by decide)
    obtain ⟨ph', hph', hcommands⟩ := (c.writes d).append fun ph h => writes_moreCommands cs h
    have h := harrow.append hcommands
    rw [List.append_assoc] at h
    rw [renderCommands, List.map_cons, joinWith_eq_flatMap]
    · refine Writes.part h ?_ ?_ <;> cases ph' <;> first | contradiction | rfl
    · simp

/-! ## Trees -/

mutual

theorem Atom.writes (a : Atom) {p : Place} (hp : p.phase.beforeAtom = true) :
    WritesTo Phase.behindAtom p a.tokens (p.gap ++ a.render) := by
  cases a with
  | ref n => exact writes_ref n hp
  | literal w => exact ⟨.literal, rfl, writes_opener w.2 rfl hp (by decide)⟩
  | range v w => exact writes_range v w hp
  | charset w => exact ⟨.element, rfl, writes_opener w.2 rfl hp (by decide)⟩
  | action w => exact ⟨.element, rfl, writes_opener w.2 rfl hp (by decide)⟩
  | wildcard => exact ⟨.element, rfl, writes_opener rfl rfl hp (by decide)⟩
  | negation a =>
    have htilde : Writes p [Terminal.token .tilde] ⟨.atom, p.depth⟩ (p.gap ++ ['~']) :=
      writes_opener rfl rfl hp (by decide)
    obtain ⟨ph, hph, ha⟩ := a.writes (p := ⟨.atom, p.depth⟩) rfl
    have h := htilde.append ha
    rw [List.append_assoc] at h
    exact ⟨ph, hph, h⟩
  | group a as =>
    have hopen : Writes p [Terminal.token .openParen] ⟨.start, p.depth + 1⟩ (p.gap ++ ['(']) :=
      writes_opener rfl rfl hp (by decide)
    obtain ⟨ph, hph, hbody⟩ := (a.writes (p.depth + 1)).append fun ph h => writes_others as h
    have h := hopen.append (hbody.append (writes_closeParen hph))
    refine ⟨.element, rfl, ?_⟩
    rw [Atom.tokens, Atom.render, joinWith_eq_flatMap]
    simp only [List.append_assoc, List.cons_append, List.nil_append] at h ⊢
    exact h

theorem Element.writes (e : Element) {p : Place} (hp : p.phase.beforePart = true) :
    WritesTo Phase.behindElement p e.tokens (p.gap ++ e.render) := by
  obtain ⟨l, a, o, s⟩ := e
  obtain ⟨q, v, hlabel, hq, hdepth, hv⟩ := writes_label l hp
  obtain ⟨ph, hph, hatom⟩ := (a.writes hq).append fun ph h =>
    (writes_elementOptions o (p := ⟨ph, q.depth⟩) h).append fun ph h =>
      writes_suffix s (p := ⟨ph, q.depth⟩) h
  rw [hdepth] at hatom
  have htext : v ++ (q.gap ++ a.render ++ ((o.map (·.1)).getD [] ++ (s.map (·.1)).getD [])) =
      p.gap ++ (Element.mk l a o s).render := by
    rw [Element.render]
    simp only [← List.append_assoc]
    rw [hv]
  refine ⟨ph, hph, ?_⟩
  rw [← htext]
  exact hlabel.append hatom

theorem writes_elements (es : List Element) {p : Place} (hp : p.phase.beforePart = true) :
    WritesParts Phase.beforePart p (elementsTokens es) (renderElements es) := by
  cases es with
  | nil => exact .nil hp
  | cons e es =>
    obtain ⟨ph, hph, he⟩ := e.writes hp
    obtain ⟨hpart, hgap⟩ := beforePart_of_behindElement hph
    have hfirst : WritesParts Phase.beforePart p e.tokens [e.render] := he.part hpart (hgap _)
    exact hfirst.append fun ph h => writes_elements es h

theorem Alternative.writes (a : Alternative) (d : Nat) :
    WritesTo Phase.mayClose ⟨.start, d⟩ a.tokens a.render := by
  obtain ⟨o, es, l, cs⟩ := a
  obtain ⟨ph, hph, h, -⟩ := (writes_alternativeOptions o d).append fun ph h =>
    (writes_elements es h).append fun ph h =>
      (writes_alternativeLabel l h).append fun ph h => writes_commands cs h
  refine ⟨ph, hph, ?_⟩
  rw [Alternative.tokens, Alternative.render, joinWith_eq_lead]
  exact h

theorem writes_others (as : List Alternative) {p : Place} (hp : p.phase.mayClose = true) :
    WritesTo Phase.mayClose p (othersTokens as) ((renderAll as).flatMap (" | ".toList ++ ·)) := by
  cases as with
  | nil => exact ⟨p.phase, hp, .nil p⟩
  | cons a as =>
    obtain ⟨ph, hph, h⟩ := (a.writes p.depth).append fun ph h => writes_others as h
    refine ⟨ph, hph, ?_⟩
    rw [othersTokens, renderAll, List.flatMap_cons, List.append_assoc]
    exact (writes_bar hp).append h

end

example :
    let b : Lexeme .name := ⟨['b'], 'b', [], rfl, rfl, nofun⟩
    let star : Lexeme .suffix := ⟨['*'], '*', by decide, Or.inl rfl⟩
    let group : Atom := .group (.mk none [.mk none (.ref b) none none] none [])
      [.mk none [] none []]
    let a : Alternative := .mk none [.mk none (.negation group) none (some star)] none []
    canonicalFrom ⟨.start, 0⟩ a.tokens = a.render ∧ a.render = "~(b | )*".toList := by
  exact ⟨rfl, rfl⟩

/-! ## Rules -/

/-- The tokens of the right-hand side of a rule. -/
def Rule.body (r : Rule) : List Token := r.first.tokens ++ othersTokens r.others

theorem Rule.writes (r : Rule) : WritesTo Phase.mayClose ⟨.start, 0⟩ r.body r.render := by
  rw [Rule.render, joinWith_eq_flatMap]
  exact (r.first.writes 0).append fun ph h => writes_others r.others h

/-- The tokens of a rule as a tree. -/
def Rule.tokens (r : Rule) : RuleTokens where
  fragment := r.fragment
  name := r.name.1
  body := r.body
  name_matches := r.name.2
  name_free := r.name_free
  body_runs := by
    obtain ⟨ph, hph, h⟩ := r.writes
    refine ⟨⟨ph, 0⟩, h.runs, ?_⟩
    cases ph <;> first | contradiction | rfl
  body_open := by
    obtain ⟨ph, -, h⟩ := r.writes
    exact h.closed

/-- The tokens of a rule state the production that is rendered for it. -/
theorem Rule.tokens_production (r : Rule) : r.tokens.production = r.production := by
  obtain ⟨ph, -, h⟩ := r.writes
  have htext := h.text []
  rw [List.append_nil, canonicalFrom, List.append_nil] at htext
  simp only [RuleTokens.production, Rule.tokens, Rule.production, canonicalBody, htext]

end Concordance.Notation
