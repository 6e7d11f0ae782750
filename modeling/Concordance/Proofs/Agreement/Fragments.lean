import Concordance.Proofs.Model.Links
import Concordance.Proofs.Notation.Fragments

/-!
# A specification agrees with its own fragments

The grammar collected from documents and the grammar read from all their fragments at once consist
of the same named productions, in the same order.  They differ in the texts that productions keep
and in their links, and in the comments; a comparison reads none of these.

* `Grammar.compare_map`: what a comparison does not read may be changed in both grammars.
* `stripped_grammar_buildModel`: the collected grammar, fragment by fragment.
* `compare_fragmentsOf`: a comparison of the two finds no difference.
-/

namespace Concordance

open Text (unlines)

/-! ## What a comparison reads -/

namespace Grammar

variable {f : Production → Production} {g h : Grammar} {n : Text}

section

variable (hname : ∀ p, (f p).name = p.name)

include hname

theorem names_map (g : Grammar) : names (g.map f) = names g := by
  rw [names, List.filterMap_map, names]
  exact congrArg (List.filterMap · g) (funext hname)

theorem first?_map (g : Grammar) (n : Text) : first? (g.map f) n = (first? g n).map f := by
  rw [first?, List.find?_map, first?]
  simp only [Function.comp_def, hname]

theorem last?_map (g : Grammar) (n : Text) : last? (g.map f) n = (last? g n).map f := by
  rw [last?, ← List.map_reverse, first?_map hname, last?]

theorem has_map (g : Grammar) (n : Text) : has (g.map f) n = has g n := by
  rw [has, List.any_map, has]
  simp only [Function.comp_def, hname]

theorem named_map (g : Grammar) : named (g.map f) = (named g).map f := by
  rw [named, List.filter_map, named]
  simp only [Function.comp_def, hname]

theorem byName_map (g : Grammar) : byName (g.map f) = (byName g).map fun x => (x.1, f x.2) := by
  simp only [byName, distinctNames, names_map hname, last?_map hname, List.map_filterMap,
    Option.map_map, Function.comp_def]

/-- A comparison reads names and serialized forms only. -/
theorem compare_map (hserialize : ∀ p, (f p).serialize = p.serialize)
    (authority extracted : Grammar) (start : Text) :
    compare (authority.map f) (extracted.map f) start = compare authority extracted start := by
  simp only [compare, differing, missing, extra, byName_map hname, last?_map hname, has_map hname,
    List.filterMap_map, Function.comp_def, Option.bind_map, hserialize]

end

theorem last?_of_mem_byName {p : Production} (h : (n, p) ∈ byName g) : last? g n = some p := by
  obtain ⟨m, -, hm⟩ := List.mem_filterMap.1 h
  obtain ⟨q, hq, hqp⟩ := Option.map_eq_some_iff.1 hm
  obtain ⟨rfl, rfl⟩ := Prod.mk.inj hqp
  exact hq

theorem has_of_last? {p : Production} (h : last? g n = some p) : has g n = true := by
  have hfind : g.reverse.find? (fun p => p.name == some n) = some p := h
  have hmem : p ∈ g := List.mem_reverse.1 (List.mem_of_find?_eq_some hfind)
  have hp : (p.name == some n) = true :=
    List.find?_some (p := fun p : Production => p.name == some n) hfind
  exact List.any_eq_true.2 ⟨p, hmem, hp⟩

/-- A grammar agrees with itself. -/
theorem compare_self (g : Grammar) (start : Text) : compare g g start = [] := by
  have hlast : ∀ x ∈ byName g, last? g x.1 = some x.2 := fun _ hx => last?_of_mem_byName hx
  have hdiffering : differing g g = [] :=
    List.filterMap_eq_nil_iff.2 fun x hx => by simp [hlast x hx]
  have hmissing : missing g g start = [] :=
    List.filterMap_eq_nil_iff.2 fun x hx => by simp [has_of_last? (hlast x hx)]
  have hextra : extra g g start = [] :=
    List.filterMap_eq_nil_iff.2 fun x hx => by simp [has_of_last? (hlast x hx)]
  rw [compare, hdiffering, hmissing, hextra]
  rfl

end Grammar

/-! ## Fragments -/

/-- The name of a production and what is serialized of it. -/
def Production.stripped (p : Production) : Production :=
  { p with text := [], linkAnchor := none, linkTitle := none }

theorem stripped_withoutText (g : Grammar) :
    (g.map Production.withoutText).map Production.stripped = g.map Production.stripped := by
  rw [List.map_map]
  rfl

theorem Grammar.named_stripped (g : Grammar) :
    named (g.map Production.stripped) = (named g).map Production.stripped :=
  named_map (f := Production.stripped) (fun _ => rfl) g

/-- Two grammars whose named productions are alike agree. -/
theorem Grammar.compare_eq_nil {g h : Grammar}
    (heq : (named g).map Production.stripped = (named h).map Production.stripped) (start : Text) :
    compare g h start = [] := by
  rw [← compare_named, ← compare_map (f := Production.stripped) (fun _ => rfl) (fun _ => rfl),
    heq, compare_self]

/-- The text of a paragraph that is a fragment in the language. -/
def Paragraph.fragment? (language : Text) : Paragraph → Option Text
  | .code l text _ => if l = language then some text else none
  | _ => none

/-- The fragments of grammar in documents, in order. -/
def fragmentsOf (language : Text) (documents : List Document) : List Text :=
  documents.flatMap fun d => d.paragraphs.filterMap (Paragraph.fragment? language)

theorem fragmentsOf_eq (language : Text) (documents : List Document) :
    fragmentsOf language documents =
      (paragraphsOf documents).filterMap fun x => x.2.fragment? language := by
  rw [fragmentsOf, paragraphsOf, List.filterMap_flatMap]
  simp only [Document.located, List.filterMap_map, Function.comp_def]

/-- The productions of a text; none if it cannot be read. -/
def Notation.productionsIn (code : Text) : Grammar :=
  match read code with
  | .ok g => g
  | .error _ => []

/-- What a text is read as does not depend on the name it goes by. -/
theorem Notation.read_renamed {code a : Text} {g : Grammar} (h : read code a = .ok g) (b : Text) :
    read code b = .ok g :=
  read_eq_ok.2 (read_eq_ok.1 h)

theorem Notation.productionsIn_eq (code source : Text) :
    (match read code source with
      | .ok g => g
      | .error _ => []) = productionsIn code := by
  rw [productionsIn]
  cases hread : read code source with
  | ok g => rw [read_renamed hread []]
  | error f =>
    cases hplain : read code with
    | ok g =>
      rw [read_renamed hplain source] at hread
      cases hread
    | error f => rfl

/-! ## The collected grammar -/

theorem map_behind {α β γ : Type} {k : β → γ} {f : List α → α → List β} {F : α → List γ}
    (h : ∀ before x, (f before x).map k = F x) (before xs : List α) :
    (behind f before xs).map k = xs.flatMap F := by
  induction xs generalizing before with
  | nil => rfl
  | cons x xs ih => rw [behind, List.map_append, h, ih, List.flatMap_cons]

/-- What a fragment adds does not depend on what stands before it, but for the links. -/
theorem stripped_productionsAt (language : Text) (before : List (Text × Paragraph))
    (x : Text × Paragraph) :
    (productionsAt language before x).map Production.stripped =
      (x.2.fragment? language).toList.flatMap fun code =>
        (Notation.productionsIn code).map Production.stripped := by
  obtain ⟨path, b⟩ := x
  cases b with
  | code l text line =>
    by_cases hl : l = language
    · simp only [productionsAt, Paragraph.fragment?, if_pos hl, Option.toList_some,
        List.flatMap_singleton, ← Notation.productionsIn_eq text (Path.name path)]
      cases Notation.read text (Path.name path) with
      | ok g => exact List.map_map
      | error f => rfl
    · simp only [productionsAt, Paragraph.fragment?, if_neg hl]
      rfl
  | _ => rfl

/-- The collected grammar consists of what the fragments are read as, one after the other. -/
theorem stripped_grammar_buildModel (language : Text) (documents : List Document) (r : Reporter) :
    (buildModel language documents r).1.grammar.map Production.stripped =
      (fragmentsOf language documents).flatMap fun code =>
        (Notation.productionsIn code).map Production.stripped := by
  rw [grammar_buildModel, map_behind (stripped_productionsAt language), fragmentsOf_eq,
    List.filterMap_eq_flatMap_toList, List.flatMap_assoc]

/-! ## Agreement -/

/-- **A specification agrees with the grammar made of its own fragments.**  If every fragment can
be read, so can all of them together, joined by line feeds, and the comparison with the collected
grammar finds nothing, whatever the start symbol is. -/
theorem compare_fragmentsOf (language source : Text) (documents : List Document) (r : Reporter)
    (hread : ∀ code ∈ fragmentsOf language documents, ∃ g, Notation.read code = .ok g) :
    ∃ g, Notation.read (unlines (fragmentsOf language documents)) source = .ok g ∧
      ∀ start, Grammar.compare g (buildModel language documents r).1.grammar start = [] := by
  have hreads : List.Forall₂ (fun code g => ∃ source, Notation.read code source = .ok g)
      (fragmentsOf language documents)
      ((fragmentsOf language documents).map Notation.productionsIn) := by
    rw [List.forall₂_map_right_iff, List.forall₂_same]
    intro code hcode
    obtain ⟨g, hg⟩ := hread code hcode
    exact ⟨[], by rw [Notation.productionsIn, hg]⟩
  obtain ⟨g, hg, hnamed⟩ := Notation.read_unlines hreads source
  refine ⟨g, hg, fun start => Grammar.compare_eq_nil ?_ start⟩
  -- Both sides are the named productions of the fragments, without what the comparison does not
  -- read.
  calc (Grammar.named g).map Production.stripped
      = ((Grammar.named g).map Production.withoutText).map Production.stripped :=
        (stripped_withoutText _).symm
    _ = (fragmentsOf language documents).flatMap fun code =>
          (Grammar.named (Notation.productionsIn code)).map Production.stripped := by
        rw [hnamed, List.flatMap_map, List.map_flatMap]
        exact congrArg (List.flatMap · _) (funext fun code => stripped_withoutText _)
    _ = Grammar.named ((fragmentsOf language documents).flatMap fun code =>
          (Notation.productionsIn code).map Production.stripped) := by
        rw [Grammar.named, List.filter_flatMap]
        exact congrArg (List.flatMap · _) (funext fun code => (Grammar.named_stripped _).symm)
    _ = (Grammar.named (buildModel language documents r).1.grammar).map Production.stripped := by
        rw [← stripped_grammar_buildModel language documents r, Grammar.named_stripped]

/-- Documents with a header, a comment that no line feed ends, and a rule that is stated twice. -/
def splitSpecification : List Document := [
  { path := "a.md".toList
    paragraphs := [
      .heading { level := 1, text := "A".toList, line := some 1 },
      .code "antlr".toList "grammar G; r : b ; // first".toList (some 2),
      .code [] "not a rule".toList (some 5)] },
  { path := "b.md".toList
    paragraphs := [
      .code "antlr".toList "/* again */ r : 'x' ;\nfragment s : r* ;".toList (some 1)] }]

theorem compare_fragmentsOf_splitSpecification :
    (fragmentsOf "antlr".toList splitSpecification).length = 2 ∧
    ∃ g, Notation.read (unlines (fragmentsOf "antlr".toList splitSpecification)) = .ok g ∧
      (Grammar.named g).map Production.serialize =
        ["r: b;".toList, "r: 'x';".toList, "fragment s: r*;".toList] ∧
      ∀ start, Grammar.compare g
        (buildModel "antlr".toList splitSpecification (Reporter.new [])).1.grammar start = [] := by
  have hread : ∀ code ∈ fragmentsOf "antlr".toList splitSpecification,
      (Notation.read code).toOption.isSome = true := by decide +kernel
  have hserialized : (Notation.read (unlines (fragmentsOf "antlr".toList splitSpecification))).map
      (fun g => (Grammar.named g).map Production.serialize) =
        .ok ["r: b;".toList, "r: 'x';".toList, "fragment s: r*;".toList] := by
    decide +kernel
  obtain ⟨g, hg, hcompare⟩ := compare_fragmentsOf "antlr".toList [] splitSpecification
    (Reporter.new []) <| by
    intro code hcode
    have hsome := hread code hcode
    cases hok : Notation.read code with
    | ok g => exact ⟨g, rfl⟩
    | error f =>
      rw [hok] at hsome
      cases hsome
  rw [hg] at hserialized
  exact ⟨by decide +kernel, g, hg, Except.ok.inj hserialized, hcompare⟩

end Concordance
