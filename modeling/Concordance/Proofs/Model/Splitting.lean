import Concordance.Proofs.Model.Findings
import Concordance.Proofs.Notation.Seams

/-!
# Fragments in one block and in two

A fragment of grammar that can be cut between two rules may be written as one block or as two
adjacent ones: the pass comes out the same behind them.  A block of its own ends with a line feed,
which makes no difference.

* `Pass.next_feed`: two blocks move the pass as the one does that they make together.
-/

namespace Concordance

open Notation (read read_feed_iff read_eq_ok)

variable {t u a b : Text} {g h : Grammar}

/-- A line feed at the end of a text is not read. -/
theorem Notation.read_concat_feed (ht : read t a = .ok g) (source : Text) :
    read (t ++ ['\n']) source = .ok g :=
  (read_feed_iff (b := source) ht).2 ⟨[], rfl, (List.append_nil g).symm⟩

namespace Pass

variable {language : Text}

/-- Behind a block that can be read the grammar is longer by its productions. -/
theorem next_code (ht : read t a = .ok g) (language file : Text) (p : Pass) (line : Option Int) :
    p.next language file (.code language t line) =
      { p with grammar := p.grammar ++ g.map (Production.linkTo p.index.current) } := by
  have hfile : read t file = .ok g := read_eq_ok.2 (read_eq_ok.1 ht)
  rw [next, if_pos rfl, productions, readFragment, hfile]
  rfl

/-- Two blocks move the pass as the one does that they make together. -/
theorem next_feed (ht : read t a = .ok g) (hu : read u b = .ok h) {first : Text}
    (hfirst : first = t ∨ first = t ++ ['\n']) (language file : Text) (p : Pass)
    (line line₁ line₂ : Option Int) :
    (p.next language file (.code language first line₁)).next language file
      (.code language u line₂) =
      p.next language file (.code language (t ++ '\n' :: u) line) := by
  have hread : read first a = .ok g := by
    rcases hfirst with rfl | rfl
    · exact ht
    · exact Notation.read_concat_feed ht a
  have hjoined : read (t ++ '\n' :: u) a = .ok (g ++ h) := (read_feed_iff ht).2 ⟨h, hu, rfl⟩
  rw [next_code hread, next_code hu, next_code hjoined, List.map_append, List.append_assoc]

end Pass

/-! ## Documents -/

theorem paragraphsOf_append (xs ys : List Document) :
    paragraphsOf (xs ++ ys) = paragraphsOf xs ++ paragraphsOf ys := List.flatMap_append

/-- Documents may differ in some paragraphs of one of them that move every pass alike. -/
theorem buildModel_congr {language : Text} {d : Document} (xs ys : List Paragraph)
    (hmove : ∀ p : Pass, p.along language (xs.map fun x => (d.path, x)) =
      p.along language (ys.map fun y => (d.path, y)))
    (before after : List Document) (ps qs : List Paragraph) (r : Reporter) :
    (buildModel language (before ++ { d with paragraphs := ps ++ (xs ++ qs) } :: after) r).1 =
      (buildModel language
        (before ++ { d with paragraphs := ps ++ (ys ++ qs) } :: after) r).1 := by
  have halong : ∀ zs : List Paragraph,
      Pass.along language {}
        (paragraphsOf (before ++ { d with paragraphs := ps ++ (zs ++ qs) } :: after)) =
      (((Pass.along language {}
        (paragraphsOf before ++ ps.map fun x => (d.path, x))).along language
        (zs.map fun z => (d.path, z))).along language
        (qs.map fun x => (d.path, x))).along language (paragraphsOf after) := by
    intro zs
    simp only [paragraphsOf_append, paragraphsOf_cons, Document.located, List.map_append,
      Pass.along_append]
  rw [buildModel_eq, buildModel_eq, halong xs, halong ys, hmove]

/-- **Reading is compositional.**  Behind a text that can be read, and a line feed, a text can be
read exactly if it can be read alone, and the productions are those of the first text and then
those of the second, with their names, bodies, texts and kinds.  So a fragment that can be cut
there may stand in a document as one block or as two adjacent ones, the first with a line feed at
its end or without: the sections and the grammar are the same. -/
theorem fragments_compose (ht : read t a = .ok g) (u : Text) :
    (∀ source k, read (t ++ '\n' :: u) source = .ok k ↔ ∃ h, read u source = .ok h ∧ k = g ++ h) ∧
    ∀ h b, read u b = .ok h → ∀ first, first = t ∨ first = t ++ ['\n'] →
      ∀ (language : Text) (before after : List Document) (d : Document) (ps qs : List Paragraph)
        (line line₁ line₂ : Option Int) (r : Reporter),
        (buildModel language (before ++
          { d with paragraphs := ps ++ (.code language first line₁ :: .code language u line₂ ::
            qs) } :: after) r).1 =
        (buildModel language (before ++
          { d with paragraphs := ps ++ (.code language (t ++ '\n' :: u) line :: qs) } ::
            after) r).1 := by
  refine ⟨fun source k => read_feed_iff ht, ?_⟩
  intro h b hu first hfirst language before after d ps qs line line₁ line₂ r
  exact buildModel_congr [.code language first line₁, .code language u line₂]
    [.code language (t ++ '\n' :: u) line]
    (fun p => Pass.next_feed ht hu hfirst language (Path.name d.path) p line line₁ line₂)
    before after ps qs r

/-- A text that ends within a line comment, and one that begins with a comment and a keyword. -/
theorem fragments_compose_commented :
    let t : Text := "grammar /* of */ G; r : 'x' ; // r :".toList
    let u : Text := "/* ; */ fragment S : 'y' // c\n ;".toList
    let g : Grammar := [
      { name := none, body := "/* of */".toList, text := "/* of */".toList },
      { name := some ['r'], body := "'x'".toList, text := "r : 'x' ;".toList },
      { name := none, body := "// r :".toList, text := "// r :".toList }]
    let h : Grammar := [
      { name := none, body := "/* ; */".toList, text := "/* ; */".toList },
      { name := some ['S'], body := "'y'".toList,
        text := "fragment S : 'y' // c\n ;".toList, fragment := true }]
    let split : Document := ⟨"a.md".toList, [.code [] (t ++ ['\n']) none, .code [] u none]⟩
    let whole : Document := ⟨"a.md".toList, [.code [] (t ++ '\n' :: u) none]⟩
    read t = .ok g ∧ read u = .ok h ∧ read (t ++ '\n' :: u) = .ok (g ++ h) ∧
      ∀ r, (buildModel [] [split] r).1 = (buildModel [] [whole] r).1 := by
  intro t u g h split whole
  have ht : read t = .ok g := rfl
  have hu : read u = .ok h := rfl
  obtain ⟨hjoin, hsplit⟩ := fragments_compose ht u
  exact ⟨ht, hu, (hjoin [] (g ++ h)).2 ⟨h, hu, rfl⟩,
    hsplit h [] hu _ (Or.inr rfl) [] [] [] split [] [] none none none⟩

end Concordance
