import Concordance.Html.Tree
import Concordance.Markdown.Html
import Concordance.Proofs.Text.Digits

/-!
# Elements that are written and read back

A text that is made of elements, each with a line feed behind it, is read as the tokens of these
elements, and the tokens build the elements.  Both are stated for any text behind the elements and
any tree around them, so that they can be put together.

* `Emits` relates a text to its tokens, and `Builds` tokens to the nodes they add.
* `Renders` is both together; `Renders.append` puts texts side by side, and `Renders.element` puts
  an element around one.
* `parse_of_renders`: the nodes of a page.
-/

namespace Concordance.Html

open Text Markdown

/-! ## Tokens -/

/-- Where there is no reference, nothing is resolved. -/
theorem resolveFrom_of_plain (inAttribute : Bool) {t : Text} (h : '&' ∉ t) :
    resolveFrom inAttribute 0 t = t := by
  induction t with
  | nil => rfl
  | cons c t ih =>
    rw [List.mem_cons, not_or] at h
    rw [resolveFrom]
    simp only [Nat.lt_irrefl, Ne.symm h.1, if_false, ih h.2]

/-- A text is read as tokens, whatever tag stands behind it. -/
structure Emits (s : Text) (ts : List Token) : Prop where
  length_le : ts.length ≤ s.length
  tokensOf_eq : ∀ fuel rest, (∀ c ∈ rest.head?, c = '<') →
    tokensOf (ts.length + fuel) (s ++ rest) = ts ++ tokensOf fuel rest

namespace Emits

theorem nil : Emits [] [] where
  length_le := Nat.le_refl _
  tokensOf_eq fuel rest _ := by
    rw [List.length_nil, Nat.zero_add, List.nil_append, List.nil_append]

theorem append {s s' : Text} {ts ts' : List Token} (h : Emits s ts) (h' : Emits s' ts')
    (hhead : ∀ c ∈ s'.head?, c = '<') : Emits (s ++ s') (ts ++ ts') where
  length_le := by
    rw [List.length_append, List.length_append]
    exact Nat.add_le_add h.length_le h'.length_le
  tokensOf_eq fuel rest hrest := by
    have hnext : ∀ c ∈ (s' ++ rest).head?, c = '<' := by
      cases s' with
      | nil => exact hrest
      | cons d s' => exact hhead
    rw [List.length_append, Nat.add_assoc, List.append_assoc, h.tokensOf_eq _ _ hnext,
      h'.tokensOf_eq _ _ hrest, List.append_assoc]

/-- Text without signs of markup is one token. -/
theorem text {t : Text} (hne : t ≠ []) (htag : '<' ∉ t) (href : '&' ∉ t) : Emits t [.text t] where
  length_le := List.length_pos_iff.2 hne
  tokensOf_eq fuel rest hrest := by
    obtain ⟨c, t, rfl⟩ := List.exists_cons_of_ne_nil hne
    rw [List.mem_cons, not_or] at htag
    have hrun : (t ++ rest).takeWhile (· != '<') = t :=
      takeWhile_append_of_head (fun d hd => bne_iff_ne.2 fun heq => htag.2 (heq ▸ hd))
        (fun d hd => by rw [hrest d hd]; rfl)
    rw [List.length_singleton, Nat.add_comm, List.cons_append, tokensOf]
    simp only [Ne.symm htag.1, if_false, hrun, List.drop_left, resolve,
      resolveFrom_of_plain _ href]
    rfl

end Emits

/-! ## Tags -/

/-- A name of a tag or of an attribute, in lower case. -/
structure IsTagName (n : Text) : Prop where
  ne_nil : n ≠ []
  inner : ∀ c ∈ n, endsTagName c = false ∧ c ≠ '='
  lower : ∀ c ∈ n, c.toLower = c

theorem IsTagName.of_all {n : Text} (hne : n ≠ [])
    (h : (n.all fun c => !endsTagName c && c != '=' && c.toLower == c) = true) : IsTagName n := by
  have hchar : ∀ c ∈ n, (endsTagName c = false ∧ c ≠ '=') ∧ c.toLower = c := by
    intro c hc
    have hall := List.all_eq_true.1 h c hc
    rwa [Bool.and_eq_true, Bool.and_eq_true, Bool.not_eq_true', bne_iff_ne, beq_iff_eq] at hall
  exact ⟨hne, fun c hc => (hchar c hc).1, fun c hc => (hchar c hc).2⟩

theorem IsTagName.lowerName_eq {n : Text} (h : IsTagName n) : lowerName n = n := by
  rw [lowerName, List.map_congr_left h.lower]
  exact List.map_id n

/-- The end of a tag without attributes. -/
theorem attributes?_end (fuel : Nat) (rest : Text) :
    attributes? (fuel + 1) ('>' :: rest) = some ([], false, rest) := by
  rw [attributes?.eq_def]
  rfl

/-- A value without quotes stands between two of them. -/
theorem value?_quoted {v : Text} (hquote : '\x22' ∉ v) (rest : Text) :
    value? ('\x22' :: (v ++ '\x22' :: rest)) = some (resolveValue v, rest) := by
  have hnoQuote : ∀ d ∈ v, (d != '\x22') = true := fun d hd =>
    bne_iff_ne.2 fun heq => hquote (heq ▸ hd)
  have hbefore : (v ++ '\x22' :: rest).takeWhile (· != '\x22') = v :=
    takeWhile_append_of_head hnoQuote (by simp)
  have hbehind : (v ++ '\x22' :: rest).dropWhile (· != '\x22') = '\x22' :: rest :=
    dropWhile_append_of_head hnoQuote (by simp)
  rw [value?]
  simp [isTagBlank, hbefore, hbehind]

/-- An attribute whose value has no quotes. -/
theorem attributes?_quoted {n v : Text} (hn : IsTagName n) (hquote : '\x22' ∉ v)
    (fuel : Nat) (rest : Text) :
    attributes? (fuel + 1) (' ' :: (n ++ '=' :: '\x22' :: (v ++ '\x22' :: rest))) =
      (attributes? fuel rest).map fun (as, empty, rest) =>
        ((n, resolveValue v) :: as, empty, rest) := by
  obtain ⟨c, tail, rfl⟩ := List.exists_cons_of_ne_nil hn.ne_nil
  obtain ⟨hc, -⟩ := hn.inner c List.mem_cons_self
  simp only [endsTagName, Bool.or_eq_false_iff, beq_eq_false_iff_ne] at hc
  obtain ⟨⟨hblank, hslash⟩, hclose⟩ := hc
  have hname : (tail ++ '=' :: '\x22' :: (v ++ '\x22' :: rest)).takeWhile
      (fun c => !endsTagName c && c != '=') = tail := by
    refine takeWhile_append_of_head (fun d hd => ?_) (by simp)
    obtain ⟨hd, heq⟩ := hn.inner d (List.mem_cons_of_mem _ hd)
    simp [hd, heq]
  have hstart :
      (' ' :: (c :: tail ++ '=' :: '\x22' :: (v ++ '\x22' :: rest))).dropWhile isTagBlank =
        c :: (tail ++ '=' :: '\x22' :: (v ++ '\x22' :: rest)) := by
    rw [List.dropWhile_cons, if_pos (by decide), List.cons_append, List.dropWhile_cons,
      if_neg (by rw [hblank]; decide)]
  rw [attributes?.eq_def]
  simp only [hstart]
  split
  · rename_i heq
    exact absurd heq (List.cons_ne_nil _ _)
  · rename_i heq
    exact absurd (List.cons.inj heq).1 hclose
  · rename_i heq
    exact absurd (List.cons.inj heq).1 hslash
  · rename_i heq
    exact absurd (List.cons.inj heq).1 hslash
  · rename_i heq
    obtain ⟨rfl, rfl⟩ := List.cons.inj heq
    have hequals : isTagBlank '=' = false := rfl
    simp only [hname, List.drop_left, List.dropWhile_cons, hequals, Bool.false_eq_true, if_false,
      value?_quoted hquote, Option.bind_some, hn.lowerName_eq]

/-- An attribute whose value has no quotes and no references. -/
theorem attributes?_attribute {n v : Text} (hn : IsTagName n) (hquote : '\x22' ∉ v)
    (href : '&' ∉ v) (fuel : Nat) (rest : Text) :
    attributes? (fuel + 1) (' ' :: (n ++ '=' :: '\x22' :: (v ++ '\x22' :: rest))) =
      (attributes? fuel rest).map fun (as, empty, rest) => ((n, v) :: as, empty, rest) := by
  rw [attributes?_quoted hn hquote, resolveValue, resolveFrom_of_plain _ href]

/-- A tag that is written for an element. -/
structure IsElementName (n : Text) : Prop extends IsTagName n where
  head : ∀ c ∈ n.head?, c.isAlpha = true
  holdsNodes : textElements.lookup n = none

theorem IsElementName.of_all {n : Text} (hn : IsTagName n) (h : n.all Char.isAlpha = true)
    (hnodes : textElements.lookup n = none) : IsElementName n :=
  { hn with
    head := fun c hc => List.all_eq_true.1 h c (List.mem_of_mem_head? hc)
    holdsNodes := hnodes }

/-- A text is read as the attributes of a tag that opens an element. -/
structure EmitsAttributes (s : Text) (as : Attributes) : Prop where
  length_le : as.length ≤ s.length
  head : ∀ c ∈ s.head?, endsTagName c = true
  attributes?_eq : ∀ fuel rest, as.length < fuel →
    attributes? fuel (s ++ '>' :: rest) = some (as, false, rest)

theorem EmitsAttributes.nil : EmitsAttributes [] [] where
  length_le := Nat.le_refl _
  head := by simp
  attributes?_eq fuel rest hfuel := by
    obtain ⟨fuel, rfl⟩ := Nat.exists_eq_add_of_lt hfuel
    exact attributes?_end _ rest

/-- A text in which no character has to be escaped. -/
def IsUnescaped (t : Text) : Prop := ∀ c ∈ t, c ≠ '&' ∧ c ≠ '<' ∧ c ≠ '>' ∧ c ≠ '\x22'

theorem IsUnescaped.escapeHtml_eq {t : Text} (h : IsUnescaped t) : escapeHtml t = t := by
  refine flatMap_eq_self fun c hc => ?_
  obtain ⟨hamp, hopen, hclose, hquote⟩ := h c hc
  simp only [hamp, hopen, hclose, hquote, if_false]

theorem isUnescaped_ofInt (n : Nat) : IsUnescaped (ofInt n) := by
  intro c hc
  refine ⟨?_, ?_, ?_, ?_⟩ <;> rintro rfl <;> exact absurd hc (not_mem_ofInt (by decide) _)

theorem EmitsAttributes.attribute {name : String} {v : Text} (hn : IsTagName name.toList)
    (hv : IsUnescaped v) : EmitsAttributes (attributeHtml name v) [(name.toList, v)] where
  length_le := by simp [attributeHtml]
  head := by simp [attributeHtml, endsTagName, isTagBlank]
  attributes?_eq fuel rest hfuel := by
    have hquote : '\x22' ∉ v := fun h => (hv _ h).2.2.2 rfl
    have href : '&' ∉ v := fun h => (hv _ h).1 rfl
    have hsplit : attributeHtml name v ++ '>' :: rest =
        ' ' :: (name.toList ++ '=' :: '\x22' :: (v ++ '\x22' :: '>' :: rest)) := by
      simp [attributeHtml, hv.escapeHtml_eq]
    obtain ⟨fuel, rfl⟩ := Nat.exists_eq_add_of_lt hfuel
    rw [hsplit, attributes?_attribute hn hquote href, List.length_singleton, Nat.add_comm 1 fuel,
      attributes?_end]
    rfl

/-- A text is read as the attributes and the end of a tag that opens an element. -/
structure EndsTag (s : Text) (as : Attributes) (empty : Bool) : Prop where
  length_lt : as.length < s.length
  head : ∀ c ∈ s.head?, endsTagName c = true
  attributes?_eq : ∀ fuel rest, as.length < fuel →
    attributes? fuel (s ++ rest) = some (as, empty, rest)

theorem EmitsAttributes.endsTag {s : Text} {as : Attributes} (h : EmitsAttributes s as) :
    EndsTag (s ++ ['>']) as false where
  length_lt := by
    have := h.length_le
    rw [List.length_append, List.length_singleton]
    omega
  head c hc := by
    cases s with
    | nil =>
      obtain rfl : '>' = c := by simpa using hc
      rfl
    | cons d s => exact h.head c hc
  attributes?_eq fuel rest hfuel := by
    rw [List.append_assoc]
    exact h.attributes?_eq fuel rest hfuel

theorem not_mem_escapeHtml {c : Char} (hc : c = '<' ∨ c = '\x22') (t : Text) :
    c ∉ escapeHtml t := by
  intro hmem
  obtain ⟨d, -, hd⟩ := List.mem_flatMap.1 hmem
  split at hd
  · rcases hc with rfl | rfl <;> exact absurd hd (by decide)
  split at hd
  · rcases hc with rfl | rfl <;> exact absurd hd (by decide)
  split at hd
  · rcases hc with rfl | rfl <;> exact absurd hd (by decide)
  split at hd
  · rcases hc with rfl | rfl <;> exact absurd hd (by decide)
  obtain rfl := List.mem_singleton.1 hd
  rcases hc with rfl | rfl <;> contradiction

theorem EndsTag.close : EndsTag ['>'] [] false := EmitsAttributes.nil.endsTag

theorem EndsTag.selfClose : EndsTag " />".toList [] true where
  length_lt := by decide
  head c hc := by
    obtain rfl : ' ' = c := Option.some.inj hc
    rfl
  attributes?_eq fuel rest hfuel := by
    obtain ⟨fuel, rfl⟩ := Nat.exists_eq_add_of_lt hfuel
    rw [attributes?.eq_def]
    rfl

/-- Whatever the value of an attribute is, it is read as one. -/
theorem EndsTag.attribute {name : String} (hn : IsTagName name.toList) (v : Text) {s : Text}
    {as : Attributes} {empty : Bool} (h : EndsTag s as empty) :
    EndsTag (attributeHtml name v ++ s)
      ((name.toList, resolveValue (escapeHtml v)) :: as) empty where
  length_lt := by
    have := h.length_lt
    have hpos : 0 < (attributeHtml name v).length := by simp [attributeHtml]
    rw [List.length_cons, List.length_append]
    omega
  head c hc := by
    obtain rfl : ' ' = c := Option.some.inj hc
    rfl
  attributes?_eq fuel rest hfuel := by
    have hquote : '\x22' ∉ escapeHtml v := not_mem_escapeHtml (Or.inr rfl) v
    have hsplit : attributeHtml name v ++ s ++ rest =
        ' ' :: (name.toList ++ '=' :: '\x22' :: (escapeHtml v ++ '\x22' :: (s ++ rest))) := by
      simp [attributeHtml]
    rw [List.length_cons] at hfuel
    obtain ⟨fuel, rfl⟩ := Nat.exists_eq_add_of_lt (Nat.zero_lt_of_lt hfuel)
    rw [hsplit, Nat.zero_add, attributes?_quoted hn hquote, h.attributes?_eq fuel rest (by omega)]
    rfl

/-- An attribute as it is read from a tag that has been written with it. -/
def readAttribute (name : String) (v : Text) : Text × Text :=
  (name.toList, resolveValue (escapeHtml v))

/-- A title as it is read from a tag, unless it is empty. -/
def titleAttributes (title : Text) : Attributes :=
  if title = [] then [] else [readAttribute "title" title]

/-- The language of code between fences as it is read from a tag. -/
def languageAttributes (info : Text) : Attributes :=
  match words (unescape info) with
  | [] => []
  | w :: _ => [readAttribute "class" ("language-".toList ++ w)]

theorem EndsTag.title (title : Text) {s : Text} {as : Attributes} {empty : Bool}
    (h : EndsTag s as empty) :
    EndsTag (titleAttribute title ++ s) (titleAttributes title ++ as) empty := by
  unfold titleAttribute titleAttributes
  split
  · exact h
  · exact h.attribute (.of_all (by decide) (by decide)) title

theorem EndsTag.language (info : Text) {s : Text} {as : Attributes} {empty : Bool}
    (h : EndsTag s as empty) :
    EndsTag (languageAttribute info ++ s) (languageAttributes info ++ as) empty := by
  unfold languageAttribute languageAttributes
  cases words (unescape info) with
  | nil => exact h
  | cons w ws => exact h.attribute (.of_all (by decide) (by decide)) _

/-- The tag of a link ends behind its destination and its title. -/
theorem EndsTag.link (destination title : Text) :
    EndsTag (attributeHtml "href" destination ++ titleAttribute title ++ ['>'])
      (readAttribute "href" destination :: (titleAttributes title ++ [])) false := by
  have hhref : IsTagName "href".toList := .of_all (by decide) (by decide)
  rw [List.append_assoc]
  exact (EndsTag.close.title title).attribute hhref destination

section

variable {n : Text} (hn : IsElementName n)

include hn

theorem tag?_of_endsTag {s : Text} {as : Attributes} {empty : Bool}
    (hs : EndsTag s as empty) (rest : Text) :
    tag? (n ++ (s ++ rest)) = some (n, as, empty, rest) := by
  have hname : (n ++ (s ++ rest)).takeWhile (fun c => !endsTagName c) = n := by
    refine takeWhile_append_of_head (fun c hc => ?_) fun c hc => ?_
    · rw [(hn.inner c hc).1]
      rfl
    · obtain ⟨d, u, rfl⟩ : ∃ d u, s = d :: u :=
        List.exists_cons_of_length_pos (Nat.zero_lt_of_lt hs.length_lt)
      rw [hs.head c hc]
      rfl
  have hfuel : as.length < (n ++ (s ++ rest)).length + 1 := by
    have hlength := hs.length_lt
    simp only [List.length_append]
    omega
  rw [tag?]
  simp only [hname, List.drop_left, hs.attributes?_eq _ rest hfuel, Option.map_some,
    hn.lowerName_eq]

theorem bracket?_of_endsTag {s : Text} {as : Attributes} {empty : Bool} (hs : EndsTag s as empty)
    (rest : Text) : bracket? (n ++ (s ++ rest)) = some (some (.opening n as empty), rest) := by
  have htag := tag?_of_endsTag hn hs rest
  obtain ⟨c, tail, rfl⟩ := List.exists_cons_of_ne_nil hn.ne_nil
  have hc : c.isAlpha = true := hn.head c rfl
  have hsigns : c ≠ '!' ∧ c ≠ '?' ∧ c ≠ '/' := by
    refine ⟨?_, ?_, ?_⟩ <;> rintro rfl <;> exact absurd hc (by decide)
  rw [List.cons_append] at htag ⊢
  rw [bracket?, if_pos hc, htag]
  all_goals simp [hsigns]

theorem tag?_name {s : Text} {as : Attributes} (hs : EmitsAttributes s as) (rest : Text) :
    tag? (n ++ (s ++ '>' :: rest)) = some (n, as, false, rest) := by
  have htag := tag?_of_endsTag hn hs.endsTag rest
  rwa [List.append_assoc] at htag

theorem bracket?_opening {s : Text} {as : Attributes} (hs : EmitsAttributes s as) (rest : Text) :
    bracket? (n ++ (s ++ '>' :: rest)) = some (some (.opening n as false), rest) := by
  have hbracket := bracket?_of_endsTag hn hs.endsTag rest
  rwa [List.append_assoc] at hbracket

theorem bracket?_closing (rest : Text) :
    bracket? ('/' :: (n ++ '>' :: rest)) = some (some (.closing n), rest) := by
  have htag := tag?_name hn .nil rest
  obtain ⟨c, tail, rfl⟩ := List.exists_cons_of_ne_nil hn.ne_nil
  have hc : c.isAlpha = true := hn.head c rfl
  rw [List.nil_append, List.cons_append] at htag
  have hend : c ≠ '>' := by
    rintro rfl
    exact absurd hc (by decide)
  rw [List.cons_append, bracket?, if_pos hc, htag]
  exact hend

end

/-! ## Elements -/

theorem tokensOf_bracket {token : Token} {t rest : Text} (h : bracket? t = some (some token, rest))
    (hliteral : literalText token rest = ([], rest)) (fuel : Nat) :
    tokensOf (fuel + 1) ('<' :: t) = token :: tokensOf fuel rest := by
  rw [tokensOf]
  simp only [if_true, h, hliteral, List.nil_append]

/-- An element is read as its tags with the tokens of what is in it between them, and the line feed
behind it. -/
theorem Emits.element {name : String} (hn : IsElementName name.toList) {s : Text} {as : Attributes}
    (hs : EmitsAttributes s as) {body : Text} {ts : List Token} (h : Emits body ts) :
    Emits (enclose name s body ++ ['\n'])
      (.opening name.toList as false :: (ts ++ [.closing name.toList, .text ['\n']])) where
  length_le := by
    have hlength := h.length_le
    simp [enclose]
    omega
  tokensOf_eq fuel rest hrest := by
    have hsplit : enclose name s body ++ ['\n'] ++ rest =
        '<' :: (name.toList ++ (s ++ '>' ::
          (body ++ '<' :: '/' :: (name.toList ++ '>' :: (['\n'] ++ rest))))) := by
      simp [enclose]
    have hliteral : ∀ rest, literalText (.opening name.toList as false) rest = ([], rest) := by
      intro rest
      simp only [literalText, hn.holdsNodes]
    have hfeed := (Emits.text (t := ['\n']) (by decide) (by decide) (by decide)).tokensOf_eq
      fuel rest hrest
    have hlength : (Token.opening name.toList as false ::
        (ts ++ [.closing name.toList, .text ['\n']])).length + fuel =
          ts.length + (1 + fuel + 1) + 1 := by
      simp
      omega
    rw [hsplit, hlength, tokensOf_bracket (bracket?_opening hn hs _) (hliteral _),
      h.tokensOf_eq _ _ (by simp), tokensOf_bracket (bracket?_closing hn _) rfl]
    rw [List.length_singleton] at hfeed
    rw [hfeed]
    simp

/-! ## Nodes -/

/-- Tokens that stand inside an element, or outside all elements, add nodes there. -/
def Builds (parent : Option Text) (ts : List Token) (ns : List Node) : Prop :=
  ∀ g : Growing, g.elements.head?.map (·.name) = parent →
    ts.foldl Growing.read g = ns.foldl Growing.add g

theorem head?_add (g : Growing) (n : Node) :
    (g.add n).elements.head?.map (·.name) = g.elements.head?.map (·.name) := by
  rw [Growing.add]
  split
  · rename_i h
    rw [h]
  · rename_i h
    rw [h]
    rfl

theorem head?_foldl_add (g : Growing) (ns : List Node) :
    (ns.foldl Growing.add g).elements.head?.map (·.name) = g.elements.head?.map (·.name) := by
  induction ns generalizing g with
  | nil => rfl
  | cons n ns ih => rw [List.foldl_cons, ih, head?_add]

theorem Builds.append {parent : Option Text} {ts ts' : List Token} {ns ns' : List Node}
    (h : Builds parent ts ns) (h' : Builds parent ts' ns') :
    Builds parent (ts ++ ts') (ns ++ ns') := by
  intro g hg
  rw [List.foldl_append, List.foldl_append, h g hg]
  exact h' _ (by rw [head?_foldl_add, hg])

/-- Nodes of which no two neighbours are texts. -/
def Separated (ns : List Node) : Prop := ns.foldl (fun ms n => Growing.push n ms) [] = ns.reverse

theorem foldl_add_open {ns : List Node} {name : Text} {as : Attributes} {es : List OpenElement}
    {roots children : List Node} :
    ns.foldl Growing.add ⟨⟨name, as, children⟩ :: es, roots⟩ =
      ⟨⟨name, as, ns.foldl (fun ms n => Growing.push n ms) children⟩ :: es, roots⟩ := by
  induction ns generalizing children with
  | nil => rfl
  | cons n ns ih => exact ih

theorem foldl_add_roots {ns roots : List Node} :
    ns.foldl Growing.add ⟨[], roots⟩ =
      ⟨[], ns.foldl (fun ms n => Growing.push n ms) roots⟩ := by
  induction ns generalizing roots with
  | nil => rfl
  | cons n ns ih => exact ih

/-- The tags of an element, with the tokens of what is in it between them, add the element. -/
theorem Builds.element {parent : Option Text} {name : Text} {as : Attributes} {ts : List Token}
    {ns : List Node} (hframe : frameTags.contains name = false)
    (hempty : emptyElements.contains name = false) (hparent : ∀ p ∈ parent, closes name p = false)
    (h : Builds (some name) ts ns) (hns : Separated ns) :
    Builds parent (.opening name as false :: (ts ++ [.closing name, .text ['\n']]))
      [.element name as ns, .text ['\n']] := by
  intro g hg
  have hclosed : (g.elements.takeWhile fun e => closes name e.name) = [] := by
    cases he : g.elements with
    | nil => rfl
    | cons e es =>
      rw [he] at hg
      rw [List.takeWhile_cons, hparent e.name (hg ▸ rfl)]
      rfl
  have hopen : g.read (.opening name as false) =
      { g with elements := ⟨name, as, []⟩ :: g.elements } := by
    simp only [Growing.read, hframe, hclosed, hempty]
    rfl
  have hclose : ∀ roots es, Growing.read ⟨⟨name, as, ns.reverse⟩ :: es, roots⟩ (.closing name) =
      Growing.add ⟨es, roots⟩ (.element name as ns) := by
    intro roots es
    simp only [Growing.read, List.takeWhile_cons, bne_self_eq_false, Bool.false_eq_true, if_false]
    simp [Growing.close, Growing.closeOne, Nat.repeat]
  rw [List.foldl_cons, hopen, List.foldl_append, h _ rfl, foldl_add_open, hns, List.foldl_cons,
    hclose]
  rfl

/-! ## Texts and nodes -/

/-- A text that stands inside an element, or outside all elements, is read as nodes there. -/
def Renders (parent : Option Text) (s : Text) (ns : List Node) : Prop :=
  ∃ ts, Emits s ts ∧ Builds parent ts ns

namespace Renders

variable {parent : Option Text}

theorem nil : Renders parent [] [] := ⟨[], .nil, fun _ _ => rfl⟩

theorem text {t : Text} (hne : t ≠ []) (ht : IsUnescaped t) : Renders parent t [.text t] :=
  ⟨[.text t], .text hne (fun h => (ht _ h).2.1 rfl) (fun h => (ht _ h).1 rfl), fun _ _ => rfl⟩

theorem append {s s' : Text} {ns ns' : List Node} (h : Renders parent s ns)
    (h' : Renders parent s' ns') (hhead : ∀ c ∈ s'.head?, c = '<') :
    Renders parent (s ++ s') (ns ++ ns') := by
  obtain ⟨ts, hemits, hbuilds⟩ := h
  obtain ⟨ts', hemits', hbuilds'⟩ := h'
  exact ⟨ts ++ ts', hemits.append hemits' hhead, hbuilds.append hbuilds'⟩

end Renders

/-- An element that may stand inside others, and that no tag but its own closes. -/
structure IsPlainElement (parent : Option Text) (name : Text) :
    Prop extends IsElementName name where
  opens : frameTags.contains name = false
  holds : emptyElements.contains name = false
  stays : ∀ p ∈ parent, closes name p = false

/-- What stands in an item without closing it is no item. -/
theorem IsPlainElement.ne_item {name : Text} (hn : IsPlainElement (some "li".toList) name) :
    name ≠ "li".toList := by
  rintro rfl
  exact absurd (hn.stays _ rfl) (by decide)

theorem Renders.element {parent : Option Text} {name : String}
    (hn : IsPlainElement parent name.toList) {s : Text} {as : Attributes}
    (hs : EmitsAttributes s as)
    {body : Text} {ns : List Node} (h : Renders (some name.toList) body ns) (hns : Separated ns) :
    Renders parent (enclose name s body ++ ['\n']) [.element name.toList as ns, .text ['\n']] := by
  obtain ⟨ts, hemits, hbuilds⟩ := h
  exact ⟨_, hemits.element hn.toIsElementName hs, hbuilds.element hn.opens hn.holds hn.stays hns⟩

/-- The nodes of a page. -/
theorem parse_of_renders {s : Text} {ns : List Node} (h : Renders none s ns) (hns : Separated ns) :
    parse s = ns := by
  obtain ⟨ts, hemits, hbuilds⟩ := h
  have htokens : tokens s = ts := by
    have hlength : ts.length ≤ s.length + 1 := Nat.le_add_right_of_le hemits.length_le
    obtain ⟨fuel, hfuel⟩ := Nat.exists_eq_add_of_le hlength
    have hread := hemits.tokensOf_eq fuel [] (by simp)
    rw [tokens, hfuel]
    rw [List.append_nil] at hread
    rw [hread]
    cases fuel <;> exact List.append_nil ts
  rw [parse, htokens, hbuilds {} rfl, foldl_add_roots, hns]
  exact List.reverse_reverse ns

end Concordance.Html
