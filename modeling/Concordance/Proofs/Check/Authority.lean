import Concordance.Proofs.Agreement.Linking
import Concordance.Proofs.Check.OneLine

/-!
# A run with a grammar that has authority

Such a run does what a run without one does.  Behind that it adds the grammar, linked to the
sections, and its disagreements with the collected grammar; both are told from the grammar as it
was read.

* `check_grammarFile`: a run with a grammar that has authority, told from the run without it.
-/

namespace Concordance

section

variable {tree : FileTree} {files : List Text} {readme : Option Text} {o : Options}
  {toolName : Text}

/-- The result of a run with the addition of a grammar that has authority. -/
def Result.withAuthority (o : Options) (toolName : Text) (res : Result)
    (authority : Grammar) : Result :=
  { res with
    authority := some (authority.linkFrom res.grammar)
    diagnostics := res.diagnostics ++
      (authority.compare res.grammar o.startSymbol).map (Difference.finding { file := toolName }) }

/-- A run with a grammar that has authority returns what the run without it does, and the
addition. -/
theorem check_grammarFile (path : Text) (res : Result) :
    (check tree files readme (some path) o toolName).1 = .ok res ↔
      ∃ plain authority, (check tree files readme none o toolName).1 = .ok plain ∧
        loadGrammar tree path o.encoding = .ok authority ∧
        res = plain.withAuthority o toolName authority := by
  rw [check, check]
  cases openIndex tree o files readme with
  | error f => simp
  | ok x =>
    obtain ⟨index, order⟩ := x
    dsimp only
    cases loadDocuments tree order o.encoding with
    | error f => simp
    | ok documents =>
      dsimp only
      cases compareIndex o _ _ index with
      | error f => simp
      | ok r =>
        dsimp only
        cases loadGrammar tree path o.encoding with
        | error f => simp
        | ok authority =>
          simp [compareAuthority, reportDifferences_eq, Model.result, Result.withAuthority,
            Reporter.diagnostics_found, diagnostics_note_readingAuthority, eq_comm]

end

/-- **Linking touches only links.**  The grammar with authority that is linked from the collected
one is the grammar that says the same, production by production, and carries the links of the first
productions of its names, whatever links it had; to the comparison it is the grammar that was read,
and linking it again changes nothing.  In a run neither grammar is changed: the collected one is
returned as the run without authority returns it, and the disagreements are those of the grammar
that was read. -/
theorem linkFrom_frame (authority extracted : Grammar) :
    (∀ g, g = authority.linkFrom extracted ↔
      g.map Production.unlinked = authority.map Production.unlinked ∧
        ∀ p ∈ g, Grammar.TakesLinks extracted p) ∧
    Grammar.linkFrom (authority.map Production.unlinked) extracted = authority.linkFrom extracted ∧
    (∀ start, (authority.linkFrom extracted).compare extracted start =
      authority.compare extracted start) ∧
    (authority.linkFrom extracted).linkFrom extracted = authority.linkFrom extracted ∧
    ∀ (tree : FileTree) (files : List Text) (readme : Option Text) (path : Text)
      (o : Options) (toolName : Text)
      (res : Result), (check tree files readme (some path) o toolName).1 = .ok res ↔
        ∃ plain authority, (check tree files readme none o toolName).1 = .ok plain ∧
          loadGrammar tree path o.encoding = .ok authority ∧
          res = plain.withAuthority o toolName authority :=
  ⟨fun _ => Grammar.eq_linkFrom_iff, Grammar.linkFrom_unlinked _ _, Grammar.compare_linkFrom _ _,
    Grammar.linkFrom_linkFrom _ _, fun _ _ _ path _ _ res => check_grammarFile path res⟩

end Concordance
