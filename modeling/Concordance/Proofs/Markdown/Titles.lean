import Concordance.Proofs.Markdown.Code
import Concordance.Proofs.Markdown.Containers
import Concordance.Proofs.Text.OneLine

/-!
# The headings of an outline

Whatever a document holds, the headings that its outline tells of are fit to be shown: the level is
at least one, and neither the title nor the name of what a title cannot hold breaks a line.

* `isGraded_readBlock`: the level of a heading, however it is marked.
* `exists_of_paragraph?_eq_heading`: what an outline says about a heading is said by an outermost
  block.
* `isShowable_of_mem_outline` puts both together.
-/

namespace Concordance

open Text

/-- A heading that is fit to be shown. -/
structure Heading.IsShowable (h : Heading) : Prop where
  level : 1 ≤ h.level
  text : IsLine h.text
  unsupported : ∀ kind ∈ h.unsupported, IsLine kind

namespace Markdown

variable {c : Container} {l : Line} {ls : List Line} {b : Block} {bs : List Block}
  {line level : Nat} {t u : Text}

/-! ## Levels -/

/-- A block whose level, if it is a heading, is at least one. -/
def IsGraded (b : Block) : Prop := ∀ line level t, b = .heading line level t → 1 ≤ level

theorem isGraded_of_map {α : Type} {o : Option α} {f : α → Block × Nat} {x : Block × Nat}
    (hf : ∀ a, o = some a → IsGraded (f a).1) (hx : o.map f = some x) : IsGraded x.1 := by
  obtain ⟨a, ha, rfl⟩ := Option.map_eq_some_iff.1 hx
  exact hf a ha

theorem isGraded_getD_or {o o' : Option (Block × Nat)} {d : Block × Nat}
    (h : ∀ x, o = some x → IsGraded x.1) (h' : IsGraded (o'.getD d).1) :
    IsGraded ((o.or o').getD d).1 :=
  of_getD_or (P := fun x => IsGraded x.1) h h'

theorem one_le_of_signedHeading? (h : signedHeading? t = some (level, u)) : 1 ≤ level := by
  rw [signedHeading?] at h
  simp only [Option.ite_none_right_eq_some, Bool.and_eq_true, decide_eq_true_eq, Option.some.injEq,
    Prod.mk.injEq] at h
  obtain ⟨⟨⟨hone, -⟩, -⟩, rfl, -⟩ := h
  exact hone

theorem one_le_of_underline? (h : underline? t = some level) : 1 ≤ level := by
  cases t with
  | nil => cases h
  | cons m t =>
    rw [underline?, Option.ite_none_right_eq_some, Option.some_inj] at h
    obtain ⟨-, rfl⟩ := h
    split <;> decide

theorem one_le_of_underlineAt? {n : Nat} (h : underlineAt? c ls = some (n, level)) :
    1 ≤ level := by
  induction ls generalizing n with
  | nil => cases h
  | cons l ls ih =>
    rw [underlineAt?] at h
    dsimp only at h
    split at h
    · rename_i level' hlevel
      obtain ⟨rfl, rfl⟩ := Prod.mk.inj (Option.some.inj h)
      exact one_le_of_underline? (Option.ite_none_right_eq_some.1 hlevel).2
    · obtain ⟨-, h⟩ := Option.ite_none_right_eq_some.1 h
      obtain ⟨⟨n', level'⟩, hrest, heq⟩ := Option.map_eq_some_iff.1 h
      obtain ⟨-, rfl⟩ := Prod.mk.inj heq
      exact ih hrest

/-- However a heading is marked, its level is at least one. -/
theorem isGraded_readBlock (quoteBody listBody : Reader) (c : Container) (l : Line)
    (ls : List Line) :
    IsGraded (readBlock quoteBody listBody c l ls).1 := by
  rw [readBlock]
  refine isGraded_getD_or (fun x hx => isGraded_of_map (fun _ _ => by rintro _ _ _ ⟨⟩) hx) ?_
  refine isGraded_getD_or (fun x hx => ?_) ?_
  · rw [Container.code?, Option.ite_none_right_eq_some, Option.some_inj] at hx
    rw [← hx.2]
    rintro _ _ _ ⟨⟩
  refine isGraded_getD_or (fun x hx => isGraded_of_map (fun _ _ => by rintro _ _ _ ⟨⟩) hx) ?_
  refine isGraded_getD_or (fun x hx => ?_) ?_
  · rw [Container.quote?, Option.ite_none_right_eq_some, Option.some_inj] at hx
    rw [← hx.2]
    rintro _ _ _ ⟨⟩
  refine isGraded_getD_or (fun x hx => ?_) ?_
  · rw [readBlock.breakBlock?, Option.ite_none_right_eq_some, Option.some_inj] at hx
    rw [← hx.2]
    rintro _ _ _ ⟨⟩
  refine isGraded_getD_or (fun x hx => isGraded_of_map (fun _ _ => by rintro _ _ _ ⟨⟩) hx) ?_
  refine isGraded_getD_or (fun x hx => ?_) ?_
  · rw [Container.definition?, Option.ite_none_left_eq_some] at hx
    obtain ⟨key, href, title, k, rfl⟩ := exists_of_definition? hx.2
    rintro _ _ _ ⟨⟩
  refine isGraded_getD_or (fun x hx => isGraded_of_map (fun _ _ => by rintro _ _ _ ⟨⟩) hx) ?_
  refine isGraded_getD_or (fun x hx => isGraded_of_map (fun a ha => ?_) hx) ?_
  · rw [Container.heading?, Option.ite_none_left_eq_some] at ha
    rintro _ _ _ ⟨⟩
    exact one_le_of_signedHeading? ha.2
  cases hx : c.underlined? l ls with
  | none => rintro _ _ _ ⟨⟩
  | some x =>
    rw [Container.underlined?, Option.ite_none_left_eq_some] at hx
    refine isGraded_of_map (fun a ha => ?_) hx.2
    rintro _ _ _ ⟨⟩
    exact one_le_of_underlineAt? ha

theorem mem_readBlocks {block : Container → Line → List Line → Block × Nat} {fuel : Nat}
    {blank tight : Bool} (h : b ∈ (readBlocks block c fuel blank tight ls).blocks) :
    ∃ l ls, b = (block c l ls).1 := by
  induction fuel generalizing blank tight ls with
  | zero => cases h
  | succ fuel ih =>
    rw [readBlocks] at h
    split at h
    · cases h
    · rename_i l rest _
      split at h
      · cases h
      · rcases List.mem_cons.1 h with rfl | h
        · exact ⟨l, rest, rfl⟩
        · exact ih h

theorem isGraded_of_mem_blocks (h : b ∈ blocks t) : IsGraded b := by
  obtain ⟨l, ls, rfl⟩ := mem_readBlocks h
  exact isGraded_readBlock _ _ _ l ls

/-! ## Outermost headings -/

section

variable {definitions : Definitions} {h : Heading}

theorem isShowable_headingOf {line : Option Int} (hlevel : 1 ≤ level) (spans : List Span) :
    (headingOf line level spans).IsShowable where
  level := Int.ofNat_le.2 hlevel
  text := isLine_joinWith_words _
  unsupported := by
    intro kind hkind
    obtain ⟨u, -, rfl⟩ := List.mem_map.1 hkind
    cases u <;> decide

/-- A block that says a heading is one. -/
theorem exists_of_paragraph?_eq_heading (hb : b.paragraph? definitions = some (.heading h)) :
    ∃ line level t, b = .heading line level t ∧
      h = headingOf (some (line + 1)) level (readSpans definitions t) := by
  cases b with
  | heading line level t =>
    obtain rfl := Paragraph.heading.inj (Option.some.inj hb)
    exact ⟨line, level, t, rfl, rfl⟩
  | _ => cases hb

/-- The headings of an outline are fit to be shown. -/
theorem isShowable_of_mem_outline (hh : .heading h ∈ outline t) : h.IsShowable := by
  rw [outline_eq] at hh
  obtain ⟨b, hb, heq⟩ := List.mem_filterMap.1 hh
  obtain ⟨line, level, u, rfl, rfl⟩ := exists_of_paragraph?_eq_heading heq
  exact isShowable_headingOf (isGraded_of_mem_blocks hb _ _ _ rfl) _

end

end Markdown

end Concordance
