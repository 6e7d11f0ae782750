import Concordance.Proofs.Html.Tags
import Concordance.Proofs.Readme.Items

/-!
# Tags that leave the open elements as they are

A page is made of pieces, and a piece that closes what it opens leaves the open elements as they
are.  Running text does not always: a link inside a link closes it, and then the outer closing tag
closes nothing, or closes more.  But only elements of running text are closed too early.

* `Leads`: tags lead from some open elements to others, and each of them fits.
* `Leads.element`: an element around tags that leave the open elements as they are does so, too,
  but for those that its own tag closes.
* `Spills`: tags may close some of the innermost elements of running text.
* `IsBalanced`: raw markup that closes what it opens, and nothing else.
-/

namespace Concordance.Readme

open Text Html

variable {ns ms ls : List Text} {ts us : List Token} {t : Text}

/-! ## Tags that fit -/

theorem fitting_append :
    Fitting ns (ts ++ us) ↔ Fitting ns ts ∧ Fitting (ts.foldl Token.behind ns) us := by
  induction ts generalizing ns with
  | nil => simp only [List.nil_append, Fitting, List.foldl_nil, true_and]
  | cons t ts ih => simp only [List.cons_append, Fitting, ih, List.foldl_cons, and_assoc]

/-- Texts do not matter. -/
theorem fitting_tags : Fitting ns (tags ts) ↔ Fitting ns ts := by
  induction ts generalizing ns with
  | nil => exact Iff.rfl
  | cons t ts ih =>
    cases t with
    | text t =>
      rw [tags_text, ih]
      exact ⟨fun h => ⟨trivial, h⟩, fun h => h.2⟩
    | comment => exact and_congr_right fun _ => ih
    | opening name as empty => exact and_congr_right fun _ => ih
    | closing name => exact and_congr_right fun _ => ih

/-! ## From open elements to others -/

/-- Reading tags leads from some open elements to others, and each of the tags fits where it
stands. -/
structure Leads (ts : List Token) (ns ms : List Text) : Prop where
  fitting : Fitting ns ts
  behind_eq : ts.foldl Token.behind ns = ms

namespace Leads

theorem nil (ns : List Text) : Leads [] ns ns := ⟨trivial, rfl⟩

theorem tag {token : Token} (h : Fits ns token) : Leads [token] ns (token.behind ns) :=
  ⟨⟨h, trivial⟩, rfl⟩

theorem append (h : Leads ts ns ms) (h' : Leads us ms ls) : Leads (ts ++ us) ns ls where
  fitting := fitting_append.2 ⟨h.fitting, h.behind_eq.symm ▸ h'.fitting⟩
  behind_eq := by rw [List.foldl_append, h.behind_eq, h'.behind_eq]

/-- Around tags that leave the open elements as they are, an element leaves those that its tag does
not close. -/
theorem element {name : Text} {as : Attributes} (hn : IsPlainElement none name)
    (hhold : MayHold (listDepth (namesUnder name ns)) name as)
    (h : Leads ts (name :: namesUnder name ns) (name :: namesUnder name ns)) :
    Leads (elementTags name as ts) ns (namesUnder name ns) := by
  have hopening : Leads [.opening name as false] ns ((Token.opening name as false).behind ns) :=
    .tag hhold
  rw [behind_opening hn.opens hn.holds] at hopening
  have hclosing : Leads [.closing name] (name :: namesUnder name ns)
      ((Token.closing name).behind (name :: namesUnder name ns)) := .tag trivial
  rw [behind_closing_self] at hclosing
  exact hopening.append (h.append hclosing)

end Leads

/-! ## Running text -/

/-- Reading tags may close elements that are open in front of some others, from the innermost on;
it closes nothing else, and each of the tags fits. -/
def Spills (ts : List Token) (ns : List Text) : Prop :=
  ∀ is, ∃ js, js <:+ is ∧ Leads ts (is ++ ns) (js ++ ns)

namespace Spills

theorem leads (h : Spills ts ns) : Leads ts ns ns := by
  obtain ⟨js, hjs, hleads⟩ := h []
  rwa [List.suffix_nil.1 hjs] at hleads

theorem of_leads (h : ∀ ls, Leads ts ls ls) (ns : List Text) : Spills ts ns :=
  fun is => ⟨is, List.suffix_refl is, h (is ++ ns)⟩

theorem nil (ns : List Text) : Spills [] ns := of_leads Leads.nil ns

theorem append (h : Spills ts ns) (h' : Spills us ns) : Spills (ts ++ us) ns := by
  intro is
  obtain ⟨js, hjs, hts⟩ := h is
  obtain ⟨ks, hks, hus⟩ := h' js
  exact ⟨ks, hks.trans hjs, hts.append hus⟩

/-- An element of running text closes no element that stands outside the running text. -/
theorem element {name : Text} {as : Attributes} (hn : IsPlainElement ns.head? name)
    (hli : name ≠ "li".toList) (hmem : name ∉ ns) (h : Spills ts ns) :
    Spills (elementTags name as ts) ns := by
  intro is
  obtain ⟨ks, hks, hunder⟩ := exists_namesUnder hn.stays is
  have hopening : Leads [.opening name as false] (is ++ ns)
      ((Token.opening name as false).behind (is ++ ns)) := .tag fun h => absurd h hli
  rw [behind_opening hn.opens hn.holds, hunder] at hopening
  obtain ⟨js, hjs, hbody⟩ := h (name :: ks)
  have hclosing : Leads [.closing name] (js ++ ns) ((Token.closing name).behind (js ++ ns)) :=
    .tag trivial
  -- Either the element is still open and is the innermost one, or something in it has closed it.
  rcases List.suffix_cons_iff.1 hjs with rfl | hjs
  · rw [List.cons_append, behind_closing_self] at hclosing
    exact ⟨ks, hks, hopening.append (hbody.append hclosing)⟩
  · obtain ⟨ls, hls, hbehind⟩ := exists_behind_closing hmem js
    rw [hbehind] at hclosing
    exact ⟨ls, (hls.trans hjs).trans hks, hopening.append (hbody.append hclosing)⟩

end Spills

/-! ## Raw markup -/

/-- Raw markup that closes what it opens, and nothing else: texts, comments, elements that hold
nothing, and elements around such markup.  An item of a list is none of these, because its tag
closes an item. -/
inductive IsBalanced : Text → Prop where
  | nil : IsBalanced []
  | text {u t : Text} : '<' ∉ u → IsBalanced t → IsBalanced (u ++ t)
  | comment {c t : Text} : (∀ rest, behindOpening (c ++ rest) = rest) → IsBalanced t →
      IsBalanced ("<!--".toList ++ c ++ t)
  | tag {n s t : Text} {as : Attributes} {empty : Bool} : IsElementName n →
      emptyElements.contains n = true → (∀ e, closes n e = false) → EndsTag s as empty →
      IsBalanced t → IsBalanced ('<' :: (n ++ s) ++ t)
  | element {name : String} {s body t : Text} {as : Attributes} :
      (∀ parent, IsPlainElement parent name.toList) → EndsTag (s ++ ['>']) as false →
      IsBalanced body → IsBalanced t → IsBalanced (Markdown.enclose name s body ++ t)

/-- Tags that leave any open elements as they are, and of which none opens an item. -/
structure IsIdle (ts : List Token) : Prop where
  leads : ∀ ns, Leads ts ns ns
  ne_item : ∀ {n as empty}, Token.opening n as empty ∈ ts → n ≠ "li".toList

namespace IsIdle

theorem nil : IsIdle [] := ⟨Leads.nil, fun h => absurd h List.not_mem_nil⟩

theorem append (h : IsIdle ts) (h' : IsIdle us) : IsIdle (ts ++ us) where
  leads ns := (h.leads ns).append (h'.leads ns)
  ne_item hmem := (List.mem_append.1 hmem).elim h.ne_item h'.ne_item

theorem comment : IsIdle [.comment] where
  leads _ := Leads.tag trivial
  ne_item hmem := by cases List.mem_singleton.1 hmem

/-- The tag of an element that holds nothing and that closes nothing. -/
theorem tag {n : Text} (hempty : emptyElements.contains n = true)
    (hstays : ∀ e, closes n e = false) (as : Attributes) (empty : Bool) :
    IsIdle [.opening n as empty] := by
  have hli : n ≠ "li".toList := by
    rintro rfl
    exact absurd hempty (by decide)
  refine ⟨fun ns => ?_, fun hmem => ?_⟩
  · have hunder : namesUnder n ns = ns := namesUnder_eq fun e _ => hstays e
    have hbehind : (Token.opening n as empty).behind ns = ns := by
      simp only [Token.behind, hempty, Bool.or_true, if_true, hunder, ite_self]
    have htag : Leads [.opening n as empty] ns ((Token.opening n as empty).behind ns) :=
      .tag fun h => absurd h hli
    rwa [hbehind] at htag
  · cases List.mem_singleton.1 hmem
    exact hli

theorem element {name : Text} (hn : ∀ parent, IsPlainElement parent name) (as : Attributes)
    (h : IsIdle ts) : IsIdle (elementTags name as ts) := by
  have hli := (hn (some "li".toList)).ne_item
  refine ⟨fun ns => ?_, fun hmem => ?_⟩
  · have hunder : namesUnder name ns = ns := namesUnder_eq (hn ns.head?).stays
    have helement : Leads (elementTags name as ts) ns (namesUnder name ns) :=
      .element (hn none) (fun h => absurd h hli) (h.leads _)
    rwa [hunder] at helement
  · rcases List.mem_cons.1 hmem with heq | hmem
    · cases heq
      exact hli
    · rcases List.mem_append.1 hmem with hmem | hmem
      · exact h.ne_item hmem
      · cases List.mem_singleton.1 hmem

end IsIdle

theorem IsBalanced.exists_tags (h : IsBalanced t) : ∃ ts, Spells t ts ∧ IsIdle ts := by
  induction h with
  | nil => exact ⟨[], .nil, .nil⟩
  | text hu _ ih =>
    obtain ⟨ts, hspells, hidle⟩ := ih
    exact ⟨ts, hspells.text hu, hidle⟩
  | comment hc _ ih =>
    obtain ⟨ts, hspells, hidle⟩ := ih
    exact ⟨_, (Spells.comment hc).append hspells, IsIdle.comment.append hidle⟩
  | tag hn hempty hstays hs _ ih =>
    obtain ⟨ts, hspells, hidle⟩ := ih
    exact ⟨_, (Spells.opening hn hs).append hspells, (IsIdle.tag hempty hstays _ _).append hidle⟩
  | element hname hs _ _ ihbody ih =>
    obtain ⟨us, hbody, hidleBody⟩ := ihbody
    obtain ⟨ts, hspells, hidle⟩ := ih
    exact ⟨_, (Spells.element (hname none).toIsElementName hs hbody).append hspells,
      (IsIdle.element hname _ hidleBody).append hidle⟩

theorem IsBalanced.isWhole (h : IsBalanced t) : IsWhole t := by
  obtain ⟨ts, hspells, -⟩ := h.exists_tags
  exact hspells.isWhole

/-- Markup that closes what it opens, and nothing else, leaves any open elements as they are. -/
theorem IsBalanced.isIdle (h : IsBalanced t) : IsIdle (tags (tokens t)) := by
  obtain ⟨ts, hspells, hidle⟩ := h.exists_tags
  rwa [hspells.tags_tokens]

end Concordance.Readme
