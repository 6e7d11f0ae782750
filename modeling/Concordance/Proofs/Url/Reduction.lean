import Concordance.Proofs.Text.Pieces
import Concordance.Proofs.Url.Anchor
import Mathlib.Data.List.Basic
import Mathlib.Data.List.TakeWhile

/-!
# Links reduced to anchors

Links and sections are compared by their anchors, so it matters that a link is reduced once and for
all.  It is cut at its first number sign; of the path in front only the last component stays, and
the number sign goes if nothing stands behind it.  A reduced link is cut at the same place into the
same name and the same fragment, and this is why nothing changes when it is reduced again.

* `Path.name_append`: what stands in front of a path does not matter to its name.
* `splitLink_linkAnchor`: the reduced link has the name and the fragment of the link.
* `linkAnchor_eq_self_iff`: which links are reduced already.
* `isReduced_anchor`: the anchor of a section is.
-/

namespace Concordance

open Text

/-! ## Names of files -/

theorem splitOn_append_cons (sep : Char) (s t : Text) :
    splitOn sep (s ++ sep :: t) = splitOn sep s ++ splitOn sep t := by
  induction s with
  | nil => simp [splitOn]
  | cons c s ih =>
    rw [List.cons_append, splitOn, splitOn, ih]
    split
    · rfl
    · obtain ⟨p, ps, hp⟩ := List.exists_cons_of_ne_nil (splitOn_ne_nil sep s)
      rw [hp]
      rfl

namespace Path

/-- A text that a path may have as its last component: it holds no slash, and it is no single dot.
The empty text stands for a path without components. -/
def IsName (n : Text) : Prop := '/' ∉ n ∧ n ≠ ['.']

theorem components_append (d p : Text) :
    components (d ++ '/' :: p) = components d ++ components p := by
  unfold components
  rw [splitOn_append_cons, List.filter_append]

/-- A path has the same name in every directory, if it has a name at all. -/
theorem name_append {p : Text} (h : name p ≠ []) (d : Text) : name (d ++ '/' :: p) = name p := by
  have hne : components p ≠ [] := by
    intro hnil
    apply h
    rw [name, hnil]
    rfl
  unfold name
  rw [components_append, List.getLast?_append_of_ne_nil _ hne]

theorem isName_name (p : Text) : IsName (name p) := by
  unfold name
  cases hlast : (components p).getLast? with
  | none => exact ⟨List.not_mem_nil, by decide⟩
  | some n =>
    have hmem : n ∈ (splitOn '/' p).filter fun s => s != [] && s != ['.'] :=
      List.mem_of_getLast? hlast
    rw [List.mem_filter] at hmem
    obtain ⟨hpiece, hkept⟩ := hmem
    simp at hkept
    exact ⟨sep_not_mem_splitOn hpiece, hkept.2⟩

/-- A name is the name of the path that consists of it. -/
theorem name_of_isName {n : Text} (h : IsName n) : name n = n := by
  obtain ⟨hslash, hdot⟩ := h
  unfold name components
  rw [splitOn_of_not_mem hslash]
  by_cases hn : n = []
  · simp [hn]
  · simp [hn, hdot]

end Path

/-! ## Cutting at a number sign -/

variable {h k : Text}

theorem not_mem_cut (d : Char) (s : Text) : d ∉ (cut d s).1 := by
  intro hd
  have hkept := List.all_takeWhile (p := (· != d)) (l := s)
  rw [List.all_eq_true] at hkept
  simpa using hkept d hd

theorem cut_of_not_mem {d : Char} {s : Text} (hd : d ∉ s) : cut d s = (s, []) := by
  have hall : ∀ c ∈ s, (c != d) = true := by
    intro c hc
    simp only [bne_iff_ne]
    rintro rfl
    exact hd hc
  rw [cut, List.takeWhile_eq_self_iff.2 hall, List.dropWhile_eq_nil_iff.2 hall]
  rfl

/-- A text that holds the sign is what stands before the first one, that sign, and what stands
behind it. -/
theorem eq_cut_of_mem {d : Char} {s : Text} (hd : d ∈ s) :
    s = (cut d s).1 ++ d :: (cut d s).2 := by
  obtain ⟨before, behind, rfl, hbefore⟩ := List.eq_append_cons_of_mem hd
  rw [cut_append hbefore]

theorem cut_append_left {d : Char} {s : Text} (hd : d ∉ s) (t : Text) :
    cut d (s ++ t) = (s ++ (cut d t).1, (cut d t).2) := by
  by_cases ht : d ∈ t
  · have hsplit := eq_cut_of_mem ht
    have hnot : d ∉ s ++ (cut d t).1 := by
      simp only [List.mem_append, not_or]
      exact ⟨hd, not_mem_cut d t⟩
    conv_lhs => rw [hsplit, ← List.append_assoc]
    exact cut_append hnot
  · have hnot : d ∉ s ++ t := by
      simp only [List.mem_append, not_or]
      exact ⟨hd, ht⟩
    rw [cut_of_not_mem hnot, cut_of_not_mem ht]

/-! ## Reduced links -/

theorem splitLink_eq (h : Text) : splitLink h = (Path.name (cut '#' h).1, (cut '#' h).2) := rfl

/-- The reduced link is told from the name and the fragment alone. -/
theorem linkAnchor_eq (h : Text) :
    linkAnchor h = if (splitLink h).2 = [] then (splitLink h).1
      else (splitLink h).1 ++ '#' :: (splitLink h).2 := by
  unfold linkAnchor
  split
  · rename_i name hsplit
    simp [hsplit]
  · rename_i name fragment hne hsplit
    have hfragment : ¬ fragment = [] := hne
    simp [hsplit, hfragment]

theorem number_sign_not_mem_name (h : Text) : '#' ∉ (splitLink h).1 := by
  intro hmem
  rw [splitLink_eq] at hmem
  dsimp only [Path.name] at hmem
  cases hlast : (Path.components (cut '#' h).1).getLast? with
  | none =>
    rw [hlast] at hmem
    simp at hmem
  | some n =>
    rw [hlast, Option.getD_some] at hmem
    have hpiece : n ∈ splitOn '/' (cut '#' h).1 :=
      (List.mem_filter.1 (List.mem_of_getLast? hlast)).1
    exact not_mem_cut '#' h (mem_of_mem_splitOn hpiece hmem)

/-- A reduced link has the name and the fragment of the link. -/
theorem splitLink_linkAnchor (h : Text) : splitLink (linkAnchor h) = splitLink h := by
  have hname : Path.name (splitLink h).1 = (splitLink h).1 :=
    Path.name_of_isName (Path.isName_name _)
  have hsign := number_sign_not_mem_name h
  rw [linkAnchor_eq h]
  by_cases hfragment : (splitLink h).2 = []
  · rw [if_pos hfragment, splitLink_eq, cut_of_not_mem hsign, hname, ← hfragment]
  · rw [if_neg hfragment, splitLink_eq, cut_append hsign, hname]

/-- Two links are reduced to the same one exactly if they have the same name and the same
fragment. -/
theorem linkAnchor_eq_iff : linkAnchor h = linkAnchor k ↔ splitLink h = splitLink k := by
  constructor
  · intro heq
    rw [← splitLink_linkAnchor h, heq, splitLink_linkAnchor k]
  · intro heq
    rw [linkAnchor_eq, linkAnchor_eq, heq]

theorem linkAnchor_linkAnchor (h : Text) : linkAnchor (linkAnchor h) = linkAnchor h :=
  linkAnchor_eq_iff.2 (splitLink_linkAnchor h)

/-- A link with no directory in front of its name, and with no number sign but in front of a
fragment. -/
structure IsReduced (h : Text) : Prop where
  name : Path.IsName (cut '#' h).1
  fragment : '#' ∈ h → (cut '#' h).2 ≠ []

theorem isReduced_linkAnchor (h : Text) : IsReduced (linkAnchor h) := by
  have hname : Path.IsName (splitLink h).1 := Path.isName_name _
  have hsign := number_sign_not_mem_name h
  rw [linkAnchor_eq h]
  by_cases hfragment : (splitLink h).2 = []
  · rw [if_pos hfragment]
    exact ⟨by rwa [cut_of_not_mem hsign], fun hmem => absurd hmem hsign⟩
  · rw [if_neg hfragment]
    exact ⟨by rwa [cut_append hsign], fun _ => by rwa [cut_append hsign]⟩

/-- Exactly the reduced links are left alone. -/
theorem linkAnchor_eq_self_iff : linkAnchor h = h ↔ IsReduced h := by
  constructor
  · intro heq
    rw [← heq]
    exact isReduced_linkAnchor h
  · rintro ⟨hname, hfragment⟩
    rw [linkAnchor_eq, splitLink_eq]
    dsimp only
    rw [Path.name_of_isName hname]
    by_cases hsign : '#' ∈ h
    · rw [if_neg (hfragment hsign), ← eq_cut_of_mem hsign]
    · rw [cut_of_not_mem hsign, if_pos rfl]

/-- A directory in front of a link does not matter, if the link has a name. -/
theorem linkAnchor_append {d : Text} (hd : '#' ∉ d) (hname : Path.name (cut '#' h).1 ≠ []) :
    linkAnchor (d ++ '/' :: h) = linkAnchor h := by
  have hsign : '#' ∉ d ++ ['/'] := by
    simp only [List.mem_append, List.mem_singleton, not_or]
    exact ⟨hd, by decide⟩
  have hcut : cut '#' (d ++ '/' :: h) = (d ++ '/' :: (cut '#' h).1, (cut '#' h).2) := by
    rw [List.append_cons d '/' h, cut_append_left hsign, List.append_assoc]
    rfl
  rw [linkAnchor_eq_iff, splitLink_eq, splitLink_eq, hcut, Path.name_append hname]

/-! ## Anchors of sections -/

/-- The number sign that an anchor is joined at need not be its first one. -/
theorem cut_anchor (title file : Text) : (cut '#' (anchor title file)).1 = (cut '#' file).1 ∧
    (slug title ≠ [] → (cut '#' (anchor title file)).2 ≠ []) := by
  unfold anchor
  rw [List.append_assoc, List.singleton_append]
  by_cases hsign : '#' ∈ file
  · obtain ⟨before, behind, rfl, hbefore⟩ := List.eq_append_cons_of_mem hsign
    rw [List.append_assoc, List.cons_append, cut_append hbefore, cut_append hbefore]
    exact ⟨rfl, fun _ => by simp⟩
  · rw [cut_append hsign, cut_of_not_mem hsign]
    exact ⟨rfl, id⟩

theorem isReduced_anchor {title file : Text} (hslug : slug title ≠ []) (hslash : '/' ∉ file)
    (hdot : (cut '#' file).1 ≠ ['.']) : IsReduced (anchor title file) := by
  obtain ⟨hfirst, hfragment⟩ := cut_anchor title file
  refine ⟨?_, fun _ => hfragment hslug⟩
  rw [hfirst]
  refine ⟨fun hmem => hslash ?_, hdot⟩
  exact (List.takeWhile_prefix _).subset hmem

/-- **The reduced link is a canonical form.**  Reducing a link again changes nothing, a directory
in front of it does not matter, and the anchor of a section in a file of any name is reduced
already.  Exactly the reduced links are left alone, and links are reduced to the same one exactly
if they agree in name and fragment. -/
theorem linkAnchor_canonical :
    (∀ h, linkAnchor (linkAnchor h) = linkAnchor h) ∧
    (∀ d h, '#' ∉ d → Path.name (cut '#' h).1 ≠ [] → linkAnchor (d ++ '/' :: h) = linkAnchor h) ∧
    (∀ title file, slug title ≠ [] → '/' ∉ file → (cut '#' file).1 ≠ ['.'] →
      linkAnchor (anchor title file) = anchor title file) ∧
    (∀ h, linkAnchor h = h ↔ IsReduced h) ∧
    ∀ h k, linkAnchor h = linkAnchor k ↔ splitLink h = splitLink k := by
  refine ⟨linkAnchor_linkAnchor, ?_, ?_, fun _ => linkAnchor_eq_self_iff,
    fun _ _ => linkAnchor_eq_iff⟩
  · intro d h hd hname
    exact linkAnchor_append hd hname
  · intro title file hslug hslash hdot
    exact linkAnchor_eq_self_iff.2 (isReduced_anchor hslug hslash hdot)

theorem linkAnchor_canonical_scope :
    linkAnchor "./docs/..//spec/intro.md#scope#2".toList = "intro.md#scope#2".toList ∧
    slug "Scope & terms".toList ≠ [] ∧
    linkAnchor (anchor "Scope & terms".toList "c#.md".toList) = "c#.md#scope-terms".toList := by
  obtain ⟨-, hdirectory, hanchor, hself, -⟩ := linkAnchor_canonical
  have hslug : slug "Scope & terms".toList ≠ [] := by decide +kernel
  have hjoined : anchor "Scope & terms".toList "c#.md".toList = "c#.md#scope-terms".toList := by
    decide +kernel
  have hreduced : IsReduced "intro.md#scope#2".toList :=
    ⟨⟨by decide, by decide⟩, fun _ => by decide⟩
  refine ⟨?_, hslug, ?_⟩
  · have hmoved :=
      hdirectory "./docs/..//spec".toList "intro.md#scope#2".toList (by decide) (by decide)
    rw [(hself _).2 hreduced] at hmoved
    exact hmoved
  · rw [hanchor _ _ hslug (by decide) (by decide), hjoined]

end Concordance
