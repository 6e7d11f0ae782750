import Concordance.Proofs.Text.LowerCase
import Concordance.Proofs.Url.Anchor

/-!
# Slugs

A slug is made of the letters and digits of a title in lower case.  Lower-casing may turn a letter
into a letter and a mark, so the runs are taken behind it; what it gives is stable, and this is why
a slug is left alone when it is made into a slug again.

* `slug_eq`: a slug is told from the title in lower case alone; trimming the title takes nothing
  from it.
* `IsSlug` is the form of a slug, and `slug_eq_self_iff` says that exactly the texts of this form
  are left alone.
* `slug_eq_nil_iff`: which titles have no slug.
-/

namespace Concordance

open Text

variable {t : Text}

/-- A slug is told from the title in lower case alone: the blanks around a title belong to none of
its runs. -/
theorem slug_eq (t : Text) : slug t = joinWith ['-'] (runs isAlphanumeric (lower t)) := by
  have hnone {s : Text} (hs : ∀ c ∈ s, isBlank c = true) : ∀ c ∈ s, isAlphanumeric c = false := by
    intro c hc
    cases hword : isAlphanumeric c with
    | false => rfl
    | true => exact absurd (hs c hc) (by rw [isBlank_of_isAlphanumeric hword]; decide)
  obtain ⟨before, behind, hlower, hbefore, hbehind⟩ := exists_blanks_around_lower t
  rw [slug, hlower, runs_append_right (hnone hbehind), runs_append_left (hnone hbefore)]

/-- Runs of letters and digits in lower case, with single hyphens between them. -/
structure IsSlug (t : Text) : Prop where
  spaced : IsSpaced isAlphanumeric '-' t
  lower : ∀ c ∈ t, IsLower c

theorem isSpaced_slug (t : Text) : IsSpaced isAlphanumeric '-' (slug t) :=
  isSpaced_joinWith_runs isAlphanumeric '-' (lower (trim t))

theorem isSlug_slug (t : Text) : IsSlug (slug t) := by
  refine ⟨isSpaced_slug t, fun c hc => ?_⟩
  rw [slug_eq] at hc
  rcases mem_joinWith hc with hc | ⟨w, hw, hc⟩
  · obtain rfl := List.mem_singleton.1 hc
    decide
  · have hmem : c ∈ (runs isAlphanumeric (lower t)).flatten := List.mem_flatten.2 ⟨w, hw, hc⟩
    rw [flatten_runs] at hmem
    exact isLower_of_mem_lower (List.mem_of_mem_filter hmem)

/-- Exactly the texts in the form of a slug are left alone. -/
theorem slug_eq_self_iff : slug t = t ↔ IsSlug t := by
  constructor
  · intro h
    rw [← h]
    exact isSlug_slug t
  · rintro ⟨hspaced, hlower⟩
    rw [slug_eq, lower_of_isLower hlower]
    exact (joinWith_runs_eq_self_iff (by decide)).2 hspaced

theorem slug_slug (t : Text) : slug (slug t) = slug t :=
  slug_eq_self_iff.2 (isSlug_slug t)

/-- A title has no slug exactly if no letter or digit is left of it in lower case. -/
theorem slug_eq_nil_iff : slug t = [] ↔ ∀ c ∈ lower t, isAlphanumeric c = false := by
  rw [slug_eq, joinWith_eq_nil_iff fun _ hw => ne_nil_of_mem_runs hw, runs_eq_nil_iff]

/-- What a slug does not hold, and where its hyphens do not stand. -/
theorem IsSlug.not_mem (h : IsSlug t) : '#' ∉ t ∧ '_' ∉ t ∧ ∀ c ∈ t, isBlank c = false := by
  have hsign {d : Char} (hd : isAlphanumeric d = false) (hhyphen : d ≠ '-') : d ∉ t := by
    intro hmem
    rcases h.spaced.mem hmem with hword | rfl
    · exact absurd rfl (ne_of_isAlphanumeric hword hd)
    · exact hhyphen rfl
  refine ⟨hsign (by decide) (by decide), hsign (by decide) (by decide), fun c hc => ?_⟩
  rcases h.spaced.mem hc with hword | rfl
  · exact isBlank_of_isAlphanumeric hword
  · decide

theorem IsSlug.hyphens (h : IsSlug t) :
    t.head? ≠ some '-' ∧ t.getLast? ≠ some '-' ∧ ¬ ['-', '-'] <:+: t := by
  refine ⟨fun hhead => ?_, fun hlast => ?_, h.spaced.not_doubled (by decide)⟩
  · exact absurd (h.spaced.head hhead) (by decide)
  · exact absurd (h.spaced.last hlast) (by decide)

/-- **Slugs are in normal form, and anchors tell them apart.**  A slug is made of runs of letters
and digits in lower case with single hyphens between them, so it holds no number sign, no low line
and no blank, and no hyphen stands at an end of it or beside another.  It is empty exactly if no
letter or digit is left of the title in lower case.  Exactly the texts of this form are left alone,
so a second slug is the first.  Two anchors are equal only for the same file, whatever its name
holds, and the same slug. -/
theorem slug_normal_form :
    (∀ title, IsSlug (slug title)) ∧
    (∀ title, ('#' ∉ slug title ∧ '_' ∉ slug title ∧ ∀ c ∈ slug title, isBlank c = false) ∧
      (slug title).head? ≠ some '-' ∧ (slug title).getLast? ≠ some '-' ∧
      ¬ ['-', '-'] <:+: slug title) ∧
    (∀ title, slug title = [] ↔ ∀ c ∈ lower title, isAlphanumeric c = false) ∧
    (∀ title, slug (slug title) = slug title) ∧
    (∀ t, slug t = t ↔ IsSlug t) ∧
    ∀ title title' file file', anchor title file = anchor title' file' ↔
      file = file' ∧ slug title = slug title' := by
  refine ⟨isSlug_slug, fun title => ?_, fun _ => slug_eq_nil_iff, slug_slug,
    fun _ => slug_eq_self_iff,
    fun _ _ _ _ => anchor_eq_iff⟩
  have hslug := isSlug_slug title
  exact ⟨hslug.not_mem, hslug.hyphens⟩

/-- A sigma in two forms, a letter that becomes a letter and a mark, and a file whose name holds
number signs. -/
theorem slug_normal_form_sigma :
    slug "\tΣΑΣ__İx! ".toList = "σας-i-x".toList ∧ slug "σας-i-x".toList = "σας-i-x".toList ∧
    slug "—".toList = [] ∧
    (anchor "ΣΑΣ İx".toList "c#.md#".toList = anchor "σας-i-x".toList "c#.md#".toList) := by
  obtain ⟨-, -, hempty, hidem, -, hanchor⟩ := slug_normal_form
  have hfirst : slug "\tΣΑΣ__İx! ".toList = "σας-i-x".toList := by decide +kernel
  have hsecond : slug "ΣΑΣ İx".toList = slug "σας-i-x".toList := by decide +kernel
  have hdash : lower "—".toList = "—".toList := by decide +kernel
  refine ⟨hfirst, ?_, (hempty _).2 ?_, (hanchor _ _ _ _).2 ⟨rfl, hsecond⟩⟩
  · rw [← hfirst]
    exact hidem _
  · intro c hc
    rw [hdash] at hc
    obtain rfl := List.mem_singleton.1 hc
    decide +kernel

end Concordance
