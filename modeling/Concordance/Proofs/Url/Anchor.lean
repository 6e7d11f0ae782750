import Concordance.Proofs.Text.Words
import Concordance.Url

/-!
# Anchors as links

An anchor that is written as the destination of a link is encoded, and what a reader finds is the
encoded form.  The form is the anchor itself exactly if its slug holds none but the first 128
characters; everything else is written with percent signs, which no anchor holds.

* `normalize_anchor`: writing an anchor to a page encodes its slug and changes nothing else.
* `encode_slug_of_plain` and `percent_mem_encode_slug`: a slug of the first 128 characters is its
  own encoding, and the encoding of any other holds a percent sign.
* `linkAnchor_document`: reducing a link to a document in the same directory leaves it alone.
* `anchor_eq_iff`: anchors are equal only for the same file and the same slug.
-/

namespace Concordance

open Text

/-! ## Document names -/

/-- Letters and the extension of documents. -/
def IsDocumentName (f : Text) : Prop :=
  ∃ stem, (∀ c ∈ stem, c.isAlpha = true) ∧ f = stem ++ ".md".toList

/-- The name of a document from its letters. -/
theorem IsDocumentName.of_all {stem : Text} (h : stem.all Char.isAlpha = true) :
    IsDocumentName (stem ++ ".md".toList) :=
  ⟨stem, List.all_eq_true.1 h, rfl⟩

theorem IsDocumentName.mem {f : Text} (h : IsDocumentName f) {c : Char} (hc : c ∈ f) :
    c.isAlpha = true ∨ c = '.' := by
  obtain ⟨stem, hstem, rfl⟩ := h
  rcases List.mem_append.1 hc with hc | hc
  · exact Or.inl (hstem c hc)
  · have hext : ∀ d ∈ ".md".toList, d.isAlpha = true ∨ d = '.' := forall_mem_of_all (by decide)
    exact hext c hc

theorem isAlphanum_of_isAlpha {c : Char} (h : c.isAlpha = true) : c.isAlphanum = true := by
  rw [Char.isAlphanum, h, Bool.true_or]

/-- No sign but a point stands in the name of a document. -/
theorem IsDocumentName.not_mem {f : Text} (h : IsDocumentName f) {d : Char}
    (hd : d.isAlpha = false) (hpoint : d ≠ '.') : d ∉ f := by
  intro hmem
  rcases h.mem hmem with hc | hc
  · rw [hc] at hd
    exact absurd hd (by decide)
  · exact hpoint hc

theorem IsDocumentName.ne_nil {f : Text} (h : IsDocumentName f) : f ≠ [] := by
  obtain ⟨stem, -, rfl⟩ := h
  simp

theorem IsDocumentName.isSchemeChar {f : Text} (h : IsDocumentName f) {c : Char} (hc : c ∈ f) :
    Url.isSchemeChar c = true := by
  rcases h.mem hc with hc | rfl
  · rw [Url.isSchemeChar, isAlphanum_of_isAlpha hc]
    rfl
  · decide

/-- A character of an anchor. -/
def IsAnchorChar (c : Char) : Prop := isAlphanumeric c = true ∨ c = '.' ∨ c = '#' ∨ c = '-'

theorem IsAnchorChar.ne {c d : Char} (hc : IsAnchorChar c) (hd : isAlphanumeric d = false)
    (hsigns : d ≠ '.' ∧ d ≠ '#' ∧ d ≠ '-') : c ≠ d := by
  rcases hc with hc | rfl | rfl | rfl
  · exact ne_of_isAlphanumeric hc hd
  · exact Ne.symm hsigns.1
  · exact Ne.symm hsigns.2.1
  · exact Ne.symm hsigns.2.2

theorem IsAnchorChar.isBlank {c : Char} (hc : IsAnchorChar c) : isBlank c = false := by
  rcases hc with hc | rfl | rfl | rfl
  · exact isBlank_of_isAlphanumeric hc
  all_goals decide

theorem isAnchorChar_of_mem_anchor {t f : Text} (hf : IsDocumentName f) {c : Char}
    (hc : c ∈ anchor t f) : IsAnchorChar c := by
  rw [anchor, List.append_assoc, List.mem_append, List.mem_append, List.mem_singleton] at hc
  rcases hc with hc | rfl | hc
  · rcases hf.mem hc with hc | rfl
    · exact Or.inl (isAlphanumeric_of_isAlphanum (isAlphanum_of_isAlpha hc))
    · exact Or.inr (Or.inl rfl)
  · exact Or.inr (Or.inr (Or.inl rfl))
  · rcases mem_slug hc with hc | rfl
    · exact Or.inl hc
    · exact Or.inr (Or.inr (Or.inr rfl))

theorem anchor_eq_append (t f : Text) : anchor t f = f ++ '#' :: slug t := by
  rw [anchor, List.append_assoc, List.singleton_append]

namespace Url

/-! ## Encoding -/

/-- A character as it is written in a link, unless it is a percent sign. -/
def encodeChar (c : Char) : Text :=
  if c.isAlphanum || linkSigns.contains c then [c] else (bytes c).flatMap percentByte

theorem encode_cons {c : Char} (h : c ≠ '%') (t : Text) :
    encode (c :: t) = encodeChar c ++ encode t := by
  rw [encode.eq_def]
  simp only [if_neg h]
  rfl

theorem encode_of_not_mem {t : Text} (h : '%' ∉ t) : encode t = t.flatMap encodeChar := by
  induction t with
  | nil => rfl
  | cons c t ih =>
    simp only [List.mem_cons, not_or] at h
    rw [encode_cons (Ne.symm h.1), ih h.2, List.flatMap_cons]

theorem encodeChar_of_isAlphanum {c : Char} (h : c.isAlphanum = true) : encodeChar c = [c] := by
  rw [encodeChar, h, Bool.true_or, if_pos rfl]

/-- A character that a link holds when it is written: one that stands for itself, or a part of an
encoded byte. -/
def IsWritten (c : Char) : Prop := c.isAlphanum = true ∨ c = '.' ∨ c = '#' ∨ c = '-' ∨ c = '%'

theorem mem_percentByte {b : Nat} (hb : b < 256) {c : Char} (hc : c ∈ percentByte b) :
    c.isAlphanum = true ∨ c = '%' := by
  have hdigits : ∀ n < 16, ([n.digitChar].map Char.toUpper).all Char.isAlphanum = true := by decide
  have hdigit : ∀ n < 16, ∀ d ∈ (Nat.toDigits 16 n).map Char.toUpper, d.isAlphanum = true := by
    intro n hn
    rw [Nat.toDigits_of_lt_base hn]
    exact List.all_eq_true.1 (hdigits n hn)
  rw [percentByte, List.mem_cons, List.mem_append] at hc
  rcases hc with hc | hc | hc
  · exact Or.inr hc
  · exact Or.inl (hdigit _ (by omega) c hc)
  · exact Or.inl (hdigit _ (by omega) c hc)

theorem lt_of_mem_bytes {c : Char} {b : Nat} (h : b ∈ bytes c) : b < 256 := by
  obtain ⟨u, -, rfl⟩ := List.mem_map.1 h
  exact u.toNat_lt

/-- What is not written as itself is written with a percent sign. -/
theorem percent_mem_encodeChar {c : Char} (h : (c.isAlphanum || linkSigns.contains c) = false) :
    '%' ∈ encodeChar c := by
  rw [encodeChar, h, if_neg (by decide)]
  obtain ⟨b, bs, hb⟩ : ∃ b bs, bytes c = b :: bs :=
    List.exists_cons_of_ne_nil (by simp [bytes])
  rw [hb, List.flatMap_cons, percentByte]
  exact List.mem_append_left _ List.mem_cons_self

/-- A character of a slug that is not among the first 128 is not written as itself. -/
theorem encodeChar_slugChar {c : Char} (hc : isAlphanumeric c = true ∨ c = '-') :
    (c.toNat < 128 → encodeChar c = [c]) ∧ (128 ≤ c.toNat → '%' ∈ encodeChar c) := by
  constructor
  · intro hlt
    rcases hc with hc | rfl
    · exact encodeChar_of_isAlphanum (isAlphanum_of_isAlphanumeric hc hlt)
    · decide
  · intro hge
    refine percent_mem_encodeChar ?_
    have hsign : ∀ d ∈ linkSigns, d.toNat < 128 := forall_mem_of_all (by decide)
    rw [Bool.or_eq_false_iff]
    constructor
    · refine Bool.eq_false_iff.2 fun h => ?_
      have := toNat_lt_of_isAlphanum h
      omega
    · refine Bool.eq_false_iff.2 fun h => ?_
      have := hsign c (List.contains_iff_mem.1 h)
      omega

theorem isWritten_of_mem_encodeChar {c d : Char} (hc : isAlphanumeric c = true ∨ c = '-')
    (hd : d ∈ encodeChar c) : IsWritten d := by
  rw [encodeChar] at hd
  split at hd
  · rename_i hself
    obtain rfl := List.mem_singleton.1 hd
    rcases hc with hc | rfl
    · rcases Bool.or_eq_true _ _ ▸ hself with h | h
      · exact Or.inl h
      · have hsign : ∀ e ∈ linkSigns, isAlphanumeric e = false := forall_mem_of_all (by decide)
        exact absurd rfl (ne_of_isAlphanumeric hc (hsign d (List.contains_iff_mem.1 h)))
    · exact Or.inr (Or.inr (Or.inr (Or.inl rfl)))
  · obtain ⟨b, hb, hd⟩ := List.mem_flatMap.1 hd
    rcases mem_percentByte (lt_of_mem_bytes hb) hd with h | rfl
    · exact Or.inl h
    · exact Or.inr (Or.inr (Or.inr (Or.inr rfl)))

/-! ## Slugs -/

section

variable (t : Text)

theorem encode_slug : encode (slug t) = (slug t).flatMap encodeChar :=
  encode_of_not_mem fun h => by
    rcases mem_slug h with h | h
    · exact absurd h (by decide)
    · exact absurd h (by decide)

theorem isWritten_of_mem_encode_slug {c : Char} (hc : c ∈ encode (slug t)) : IsWritten c := by
  rw [encode_slug] at hc
  obtain ⟨d, hd, hc⟩ := List.mem_flatMap.1 hc
  exact isWritten_of_mem_encodeChar (mem_slug hd) hc

variable {t}

theorem encode_slug_of_plain (h : ∀ c ∈ slug t, c.toNat < 128) : encode (slug t) = slug t := by
  rw [encode_slug]
  exact flatMap_eq_self fun c hc => (encodeChar_slugChar (mem_slug hc)).1 (h c hc)

theorem percent_mem_encode_slug {c : Char} (hc : c ∈ slug t) (h : 128 ≤ c.toNat) :
    '%' ∈ encode (slug t) := by
  rw [encode_slug]
  exact List.mem_flatMap.2 ⟨c, hc, (encodeChar_slugChar (mem_slug hc)).2 h⟩

end

/-! ## Destinations -/

/-- The destination that is written to a page for the anchor of a title in a file. -/
def writtenAnchor (title file : Text) : Text := file ++ '#' :: encode (slug title)

section

variable {title file : Text} (hfile : IsDocumentName file)

include hfile

theorem isWritten_of_mem_writtenAnchor {c : Char} (hc : c ∈ writtenAnchor title file) :
    IsWritten c := by
  rw [writtenAnchor, List.mem_append, List.mem_cons] at hc
  rcases hc with hc | rfl | hc
  · rcases hfile.mem hc with hc | rfl
    · exact Or.inl (isAlphanum_of_isAlpha hc)
    · exact Or.inr (Or.inl rfl)
  · exact Or.inr (Or.inr (Or.inl rfl))
  · exact isWritten_of_mem_encode_slug title hc

theorem encode_anchor : encode (anchor title file) = writtenAnchor title file := by
  have hfixed : file.flatMap encodeChar = file := flatMap_eq_self fun c hc => by
    rcases hfile.mem hc with hc | rfl
    · exact encodeChar_of_isAlphanum (isAlphanum_of_isAlpha hc)
    · decide
  have hnot : '%' ∉ anchor title file := fun h =>
    (isAnchorChar_of_mem_anchor hfile h).ne (by decide) (by decide) rfl
  rw [encode_of_not_mem hnot, anchor_eq_append, List.flatMap_append, List.flatMap_cons,
    ← encode_slug, writtenAnchor, hfixed]
  rfl

/-- An anchor has no scheme, so none of it is taken for a host. -/
theorem parse_anchor : parse (anchor title file) = { rest := anchor title file } := by
  have htrim : trim (anchor title file) = anchor title file :=
    trim_of_forall fun c hc => (isAnchorChar_of_mem_anchor hfile hc).isBlank
  have hscheme : splitScheme (anchor title file) = ([], anchor title file) := by
    have hdrop : (anchor title file).dropWhile isSchemeChar = '#' :: slug title := by
      rw [anchor_eq_append, List.dropWhile_append_of_pos fun c hc => hfile.isSchemeChar hc]
      rfl
    rw [splitScheme, hdrop]
    split
    · rename_i h
      simp at h
    · rfl
  have hslashes : startsWith ['/', '/'] (anchor title file) = false := by
    obtain ⟨c, rest, hc⟩ := List.exists_cons_of_ne_nil hfile.ne_nil
    have hne : '/' ≠ c := by
      rintro rfl
      exact hfile.not_mem (by decide) (by decide) (hc ▸ List.mem_cons_self)
    rw [anchor_eq_append, hc, List.cons_append]
    simp [startsWith, List.isPrefixOf, hne]
  rw [parse, htrim, hscheme]
  simp only [hslashes]
  rfl

/-- Writing an anchor to a page encodes its slug and changes nothing else. -/
theorem normalize_anchor : normalize (anchor title file) = writtenAnchor title file := by
  rw [normalize, parse_anchor hfile, ← encode_anchor hfile]
  rfl

/-- A page may hold any link to a document. -/
theorem isAllowed_writtenAnchor : isAllowed (writtenAnchor title file) = true := by
  have hwritten : ∀ c ∈ writtenAnchor title file, c.toNat < 128 ∧ isBlank c = false ∧ c ≠ ':' := by
    intro c hc
    rcases isWritten_of_mem_writtenAnchor hfile hc with h | rfl | rfl | rfl | rfl
    · refine ⟨toNat_lt_of_isAlphanum h,
        isBlank_of_isAlphanumeric (isAlphanumeric_of_isAlphanum h), ?_⟩
      rintro rfl
      exact absurd h (by decide)
    all_goals decide
  have hlower : ':' ∉ lower (trim (writtenAnchor title file)) := by
    rw [trim_of_forall fun c hc => (hwritten c hc).2.1,
      lower_of_ascii fun c hc => (hwritten c hc).1, List.mem_map]
    rintro ⟨c, hc, hcolon⟩
    have hlow : ∀ n < 128, (Char.ofNat n).toLower = ':' → Char.ofNat n = ':' := by decide
    have h := hlow c.toNat (hwritten c hc).1
    rw [Char.ofNat_toNat] at h
    exact (hwritten c hc).2.2 (h hcolon)
  have hscheme : ∀ s ∈ ["vbscript:", "javascript:", "file:", "data:"],
      startsWith s.toList (lower (trim (writtenAnchor title file))) = false := by
    intro s hs
    refine Bool.eq_false_iff.2 fun h => hlower ?_
    rw [startsWith_iff] at h
    have hcolon : ∀ s ∈ ["vbscript:", "javascript:", "file:", "data:"], ':' ∈ s.toList := by decide
    exact h.subset (hcolon s hs)
  have hany : (["vbscript:", "javascript:", "file:", "data:"].any fun s =>
      startsWith s.toList (lower (trim (writtenAnchor title file)))) = false := by
    simpa using hscheme
  simp only [isAllowed, hany]
  rfl

end

end Url

/-! ## Links -/

theorem cut_append {d : Char} {s t : Text} (h : d ∉ s) : cut d (s ++ d :: t) = (s, t) := by
  have hall : ∀ c ∈ s, (c != d) = true := by
    intro c hc
    exact bne_iff_ne.2 fun heq => h (heq ▸ hc)
  rw [cut, List.takeWhile_append_of_pos hall, List.dropWhile_append_of_pos hall]
  simp

theorem IsDocumentName.name_eq {file : Text} (h : IsDocumentName file) :
    Path.name file = file := by
  have hslash : '/' ∉ file := h.not_mem (by decide) (by decide)
  have hdot : file ≠ ['.'] := by
    obtain ⟨stem, -, rfl⟩ := h
    intro heq
    have hlen := congrArg List.length heq
    simp at hlen
  rw [Path.name, Path.components, splitOn_of_not_mem hslash]
  simp [h.ne_nil, hdot]

/-- A link to a document in the same directory is reduced to itself, if it has a fragment. -/
theorem linkAnchor_document {file fragment : Text} (h : IsDocumentName file) (hf : fragment ≠ []) :
    linkAnchor (file ++ '#' :: fragment) = file ++ '#' :: fragment := by
  have hhash : '#' ∉ file := h.not_mem (by decide) (by decide)
  rw [linkAnchor, splitLink, cut_append hhash]
  simp only [h.name_eq, List.append_assoc, List.singleton_append]

/-! ## Equal anchors -/

theorem number_sign_not_mem_slug (t : Text) : '#' ∉ slug t := by
  intro h
  rcases mem_slug h with h | h
  · exact absurd h (by decide)
  · exact absurd h (by decide)

/-- The file may hold number signs; the slug holds none. -/
theorem anchor_eq_iff {t u f g : Text} : anchor t f = anchor u g ↔ f = g ∧ slug t = slug u := by
  have hcut : ∀ t f, cut '#' (anchor t f).reverse = ((slug t).reverse, f.reverse) := by
    intro t f
    have hrev : (anchor t f).reverse = (slug t).reverse ++ '#' :: f.reverse := by
      simp [anchor]
    rw [hrev, cut_append fun h => number_sign_not_mem_slug t (List.mem_reverse.1 h)]
  constructor
  · intro h
    have hpair := (hcut t f).symm.trans (h ▸ hcut u g)
    obtain ⟨hslug, hfile⟩ := Prod.mk.inj hpair
    exact ⟨List.reverse_inj.1 hfile, List.reverse_inj.1 hslug⟩
  · rintro ⟨rfl, hslug⟩
    rw [anchor, anchor, hslug]

end Concordance
