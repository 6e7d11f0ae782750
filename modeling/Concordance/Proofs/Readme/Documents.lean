import Concordance.Proofs.Readme.ItemOrder
import Mathlib.Data.List.Basic
import Mathlib.Data.List.Nodup

/-!
# The documents that an index document links

Documents are looked up by their file names, and of several with one name only the last one can be
found.  So every name that is linked has one document in the order; the others of its name are
lost, although the index links them as much.

* `pathOf?_eq_some_iff`: the document that a name leads to.
* `orderNames_eq_unknown_iff`: the first name without a document is reported.
* `map_name_documentsOf`: each name that is linked is there once, where it is linked first.
* `mem_iff_linked_iff`: the linked documents are all there exactly if no two of them share a name.
-/

namespace Concordance.Readme

open Text

variable {files ns os : List Text} {es : List Entry} {t extension n p : Text}

/-! ## Paths by name -/

/-- The last one of paths with its file name. -/
def IsLastNamed (files : List Text) (p : Text) : Prop :=
  ∃ before behind, files = before ++ p :: behind ∧ ∀ q ∈ behind, Path.name q ≠ Path.name p

theorem IsLastNamed.mem (h : IsLastNamed files p) : p ∈ files := by
  obtain ⟨before, behind, rfl, -⟩ := h
  exact List.mem_append_right before List.mem_cons_self

/-- A name leads to the last path that has it. -/
theorem pathOf?_eq_some_iff :
    pathOf? files n = some p ↔ Path.name p = n ∧ IsLastNamed files p := by
  unfold pathOf? IsLastNamed
  rw [List.find?_eq_some_iff_append, beq_iff_eq]
  refine and_congr_right fun hname => ?_
  subst hname
  constructor
  · rintro ⟨behind, before, heq, hbehind⟩
    refine ⟨before.reverse, behind.reverse, ?_, fun q hq => ?_⟩
    · rw [← List.reverse_reverse files, heq, List.reverse_append, List.reverse_cons,
        List.append_assoc, List.singleton_append]
    · have hne := hbehind q (List.mem_reverse.1 hq)
      simpa using hne
  · rintro ⟨before, behind, rfl, hbehind⟩
    refine ⟨behind.reverse, before.reverse, ?_, fun q hq => ?_⟩
    · rw [List.reverse_append, List.reverse_cons, List.append_assoc, List.singleton_append]
    · simpa using hbehind q (List.mem_reverse.1 hq)

theorem isSome_pathOf?_iff : (pathOf? files n).isSome ↔ n ∈ files.map Path.name := by
  unfold pathOf?
  simp [List.find?_isSome, List.mem_map]

/-- Names are gone through up to the first one that leads nowhere. -/
theorem orderNames_eq_unknown_iff_find? (ordered : List Text) :
    orderNames files ordered ns = .error (.unknown n) ↔
      ns.find? (fun m => (pathOf? files m).isNone) = some n := by
  induction ns generalizing ordered with
  | nil =>
    rw [orderNames]
    simp
  | cons m ns ih =>
    rw [orderNames, List.find?_cons]
    cases pathOf? files m with
    | none => simp
    | some p => exact ih _

/-- A name that leads nowhere is reported, the first one only. -/
theorem orderNames_eq_unknown_iff (ordered : List Text) :
    orderNames files ordered ns = .error (.unknown n) ↔
      ∃ before behind, ns = before ++ n :: behind ∧ (∀ m ∈ before, m ∈ files.map Path.name) ∧
        n ∉ files.map Path.name := by
  have hnone : ∀ m, (pathOf? files m).isNone = true ↔ m ∉ files.map Path.name := fun m => by
    rw [← isSome_pathOf?_iff, Bool.not_eq_true, Option.isSome_eq_false_iff]
  have hsome : ∀ m, (!(pathOf? files m).isNone) = true ↔ m ∈ files.map Path.name := fun m => by
    rw [Bool.not_eq_true', ← Bool.not_eq_true, hnone, not_not]
  rw [orderNames_eq_unknown_iff_find?, List.find?_eq_some_iff_append]
  simp only [hnone, hsome]
  constructor
  · rintro ⟨hn, before, behind, heq, hbefore⟩
    exact ⟨before, behind, heq, hbefore, hn⟩
  · rintro ⟨before, behind, heq, hbefore, hn⟩
    exact ⟨hn, before, behind, heq, hbefore⟩

/-! ## Documents in order -/

theorem mem_documentsOf_iff :
    p ∈ documentsOf files ns ↔ Path.name p ∈ ns ∧ IsLastNamed files p := by
  rw [mem_documentsOf]
  constructor
  · rintro ⟨m, hm, hp⟩
    obtain ⟨rfl, hlast⟩ := pathOf?_eq_some_iff.1 hp
    exact ⟨hm, hlast⟩
  · rintro ⟨hname, hlast⟩
    exact ⟨Path.name p, hname, pathOf?_eq_some_iff.2 ⟨rfl, hlast⟩⟩

/-- Each name is there once, where it occurs first. -/
theorem map_name_documentsOf (h : ∀ m ∈ ns, m ∈ files.map Path.name) :
    (documentsOf files ns).map Path.name = eachOnce ns := by
  have hnames : ∀ ms : List Text, (∀ m ∈ ms, m ∈ files.map Path.name) →
      (ms.filterMap (pathOf? files)).map Path.name = ms := by
    intro ms hms
    induction ms with
    | nil => rfl
    | cons m ms ih =>
      obtain ⟨p, hp⟩ :=
        Option.isSome_iff_exists.1 (isSome_pathOf?_iff.2 (hms m List.mem_cons_self))
      rw [List.filterMap_cons_some hp, List.map_cons, eq_name_of_pathOf? hp,
        ih fun k hk => hms k (List.mem_cons_of_mem m hk)]
  exact hnames _ fun m hm => h m (mem_eachOnce.1 hm)

theorem nodup_of_map_name (h : os.map Path.name = eachOnce ns) : os.Nodup := by
  have hnames : (os.map Path.name).Nodup := by
    rw [h]
    exact nodup_eachOnce ns
  exact hnames.of_map Path.name

/-- All paths whose names occur are there exactly if no two of them share their name. -/
theorem mem_iff_linked_iff (h : ∀ m ∈ ns, m ∈ files.map Path.name) :
    (∀ p, p ∈ documentsOf files ns ↔ p ∈ files ∧ Path.name p ∈ ns) ↔
      ∀ p ∈ files, ∀ q ∈ files, Path.name p = Path.name q → Path.name p ∈ ns → p = q := by
  constructor
  · intro hall p hp q hq hname hlinked
    -- Both are found under the one name.
    have hfound : ∀ r ∈ files, Path.name r = Path.name p →
        pathOf? files (Path.name p) = some r := by
      intro r hr hrname
      obtain ⟨-, hlast⟩ := mem_documentsOf_iff.1 ((hall r).2 ⟨hr, hrname ▸ hlinked⟩)
      exact pathOf?_eq_some_iff.2 ⟨hrname, hlast⟩
    exact Option.some.inj ((hfound p hp rfl).symm.trans (hfound q hq hname.symm))
  · intro hone p
    constructor
    · intro hp
      obtain ⟨hname, hlast⟩ := mem_documentsOf_iff.1 hp
      exact ⟨hlast.mem, hname⟩
    · rintro ⟨hp, hname⟩
      obtain ⟨q, hq⟩ := Option.isSome_iff_exists.1 (isSome_pathOf?_iff.2 (h _ hname))
      obtain ⟨hqname, hlast⟩ := pathOf?_eq_some_iff.1 hq
      have heq : p = q := hone p hp q hlast.mem hqname.symm hname
      rw [heq] at hname ⊢
      exact mem_documentsOf_iff.2 ⟨hname, hlast⟩

/-! ## Documents of an index document -/

/-- The file names that entries link, in order. -/
def linkedNames (es : List Entry) : List Text := es.map fun e => (splitLink e.anchor).1

theorem exists_entries_of_map (h : (entries t [] extension).map linkedNames = .ok ns) :
    ∃ es, entries t [] extension = .ok es ∧ linkedNames es = ns := by
  cases hentries : entries t [] extension with
  | error f =>
    rw [hentries] at h
    cases h
  | ok es =>
    rw [hentries] at h
    exact ⟨es, rfl, Except.ok.inj h⟩

theorem order_eq_orderNames (h : entries t [] extension = .ok es) (files : List Text) :
    order t files extension = orderNames files [] (linkedNames es) := by
  unfold order
  rw [h]
  rfl

theorem order_eq_ok_iff (h : entries t [] extension = .ok es) : order t files extension = .ok os ↔
    (∀ m ∈ linkedNames es, m ∈ files.map Path.name) ∧ os = documentsOf files (linkedNames es) := by
  have hnone : documentsOf files [] = [] := rfl
  rw [order_eq_orderNames h, ← hnone, orderNames_eq_ok_iff, List.nil_append]
  simp only [isSome_pathOf?_iff]

theorem exists_order_eq_unknown_iff (h : entries t [] extension = .ok es) :
    (∃ n, order t files extension = .error (.unknown n)) ↔
      ∃ n ∈ linkedNames es, n ∉ files.map Path.name := by
  rw [order_eq_orderNames h]
  constructor
  · rintro ⟨n, hn⟩
    obtain ⟨before, behind, heq, -, hnone⟩ := (orderNames_eq_unknown_iff []).1 hn
    rw [heq]
    exact ⟨n, List.mem_append_right before List.mem_cons_self, hnone⟩
  · rintro ⟨n, hn, hnone⟩
    cases hnames : orderNames files [] (linkedNames es) with
    | error fault =>
      obtain ⟨m, rfl⟩ := exists_unknown hnames
      exact ⟨m, rfl⟩
    | ok os =>
      rw [← order_eq_orderNames h, order_eq_ok_iff h] at hnames
      exact absurd (hnames.1 n hn) hnone

/-- **Each name that is linked brings one document.**  Where the entries can be read, the order
fails exactly if one of them links a name that no document has, and the first such name is
reported.  Otherwise every linked name is there once, in the order of the first entries with their
names, with the last document that has it; and so all documents with linked names are there exactly
if no two of them share one. -/
theorem order_by_name (t extension : Text) (files : List Text) :
    (∀ fault, order t files extension = .error (.entries fault) ↔
      entries t [] extension = .error fault) ∧
    ∀ es, entries t [] extension = .ok es →
      (∀ n, order t files extension = .error (.unknown n) ↔
        ∃ before behind, linkedNames es = before ++ n :: behind ∧
        (∀ m ∈ before, m ∈ files.map Path.name) ∧ n ∉ files.map Path.name) ∧
      ((∃ n, order t files extension = .error (.unknown n)) ↔
        ∃ n ∈ linkedNames es, n ∉ files.map Path.name) ∧
      ((∃ os, order t files extension = .ok os) ↔ ∀ n ∈ linkedNames es, n ∈ files.map Path.name) ∧
      ∀ os, order t files extension = .ok os →
        os.Nodup ∧ os.map Path.name = eachOnce (linkedNames es) ∧
        os.Pairwise (fun p q => FirstBefore (linkedNames es) (Path.name p) (Path.name q)) ∧
        (∀ p, p ∈ os ↔ Path.name p ∈ linkedNames es ∧ IsLastNamed files p) ∧
        ((∀ p, p ∈ os ↔ p ∈ files ∧ Path.name p ∈ linkedNames es) ↔
          ∀ p ∈ files, ∀ q ∈ files, Path.name p = Path.name q →
            Path.name p ∈ linkedNames es → p = q) := by
  constructor
  · intro fault
    cases hentries : entries t [] extension with
    | error f => simp [order, hentries]
    | ok es =>
      rw [order_eq_orderNames hentries]
      refine ⟨fun h => ?_, fun h => by cases h⟩
      obtain ⟨n, hn⟩ := exists_unknown h
      cases hn
  · intro es hes
    have hok : ∀ os, order t files extension = .ok os ↔
        (∀ m ∈ linkedNames es, m ∈ files.map Path.name) ∧
        os = documentsOf files (linkedNames es) :=
      fun os => order_eq_ok_iff hes
    refine ⟨fun n => ?_, exists_order_eq_unknown_iff hes, ?_, fun os hos => ?_⟩
    · rw [order_eq_orderNames hes]
      exact orderNames_eq_unknown_iff []
    · simp only [hok, exists_and_left, exists_eq, and_true]
    · obtain ⟨hknown, rfl⟩ := (hok os).1 hos
      have hnames := map_name_documentsOf hknown
      exact ⟨nodup_of_map_name hnames, hnames, pairwise_documentsOf _ _,
        fun p => mem_documentsOf_iff,
        mem_iff_linked_iff hknown⟩

/-- An index document that links one document twice before another one. -/
def lexicalFirst : Text :=
  "- [Lexical](lexical.md#lexical)\n  - [Tokens](lexical.md#tokens)\n".toList ++
    "- [Introduction](intro.md#introduction)\n".toList

theorem order_by_name_lexical : ∃ os,
    order lexicalFirst ["intro.md".toList, "old/lexical.md".toList,
      "lexical.md".toList] ".md".toList = .ok os ∧
    os.Nodup ∧ os.map Path.name = ["lexical.md".toList, "intro.md".toList] ∧
    "old/lexical.md".toList ∉ os := by
  obtain ⟨es, hes, hnames⟩ : ∃ es, entries lexicalFirst [] ".md".toList = .ok es ∧
      linkedNames es = ["lexical.md".toList, "lexical.md".toList, "intro.md".toList] :=
    exists_entries_of_map (by decide +kernel)
  obtain ⟨-, -, hok, hdocuments⟩ := (order_by_name lexicalFirst ".md".toList
    ["intro.md".toList, "old/lexical.md".toList, "lexical.md".toList]).2 es hes
  rw [hnames] at hok hdocuments
  obtain ⟨os, hos⟩ := hok.2 (by decide)
  obtain ⟨hnodup, honce, -, hmem, -⟩ := hdocuments os hos
  refine ⟨os, hos, hnodup, honce.trans (by decide), fun hold => ?_⟩
  have hlast := pathOf?_eq_some_iff.2 ⟨rfl, ((hmem _).1 hold).2⟩
  revert hlast
  decide

/-- An index document that links two documents of one name. -/
def sharedName : Text := "* [A](x/a.md)\n* [B](y/a.md)\n".toList

theorem order_sharedName : ∃ es, entries sharedName [] ".md".toList = .ok es ∧
    Path.name "x/a.md".toList ∈ linkedNames es ∧
    order sharedName ["x/a.md".toList, "y/a.md".toList] ".md".toList = .ok ["y/a.md".toList] := by
  obtain ⟨es, hes, hnames⟩ : ∃ es, entries sharedName [] ".md".toList = .ok es ∧
      linkedNames es = ["a.md".toList, "a.md".toList] := exists_entries_of_map (by decide +kernel)
  refine ⟨es, hes, ?_, by decide +kernel⟩
  rw [hnames]
  decide

end Concordance.Readme
