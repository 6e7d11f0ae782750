import Concordance.Proofs.Markdown.Passages

/-!
# Code blocks

Fenced code ends with its closing fence, and indented code with a line that is not indented; the
text of either is made of its lines.

* `begins_fenced` and `begins_indented`: the code in front comes first.
-/

namespace Concordance.Markdown

open Text

/-! ## Fenced code -/

/-- Whether a line closes a fence of `length` signs `m` that stands at the margin. -/
def endsFence (m : Char) (length : Nat) (l : Line) : Bool :=
  l.content.head? = some m && !({} : Container).isCode l && closesFence m length l.content

theorem of_openFence? {t info : Text} {m : Char} {length : Nat}
    (h : openFence? t = some (m, length, info)) : t.head? = some m ∧ (m = '~' ∨ m = '`') := by
  cases t with
  | nil => exact absurd h (by simp [openFence?])
  | cons c t =>
    rw [openFence?, Option.ite_none_right_eq_some, Option.some_inj, Prod.mk.injEq] at h
    obtain ⟨⟨hsign, -⟩, rfl, -⟩ := h
    exact ⟨rfl, hsign⟩

/-- A line with the sign of a fence for its first character stands at the margin. -/
theorem ofText_of_sign (n : Nat) {t : Text} {m : Char} (hsign : m = '~' ∨ m = '\x60')
    (h : t.head? = some m) :
    Line.ofText n t true = { number := n, text := t, shift := 0, indent := 0 } := by
  obtain ⟨u, rfl⟩ := List.head?_eq_some_iff.1 h
  exact ofText_cons (by rcases hsign with rfl | rfl <;> decide) n u

theorem endsFence_ofText (m : Char) (length n : Nat) (t : Text) :
    endsFence m length (.ofText n t true) = endsFence m length (.ofText 0 t true) := rfl

theorem fenceBody_cons {m : Char} {length : Nat} {l : Line} (hin : 0 ≤ l.indent)
    (hended : l.ended = true) (ls : List Line) :
    fenceBody {} m length (l :: ls) =
      if endsFence m length l then ([], true)
      else (l :: (fenceBody {} m length ls).1, (fenceBody {} m length ls).2) := by
  have hleft : decide (l.indent < (({} : Container).indent : Int)) = false :=
    decide_eq_false (Int.not_lt.2 hin)
  rw [fenceBody, hleft, hended]
  simp only [Bool.and_false, Bool.not_true, Bool.false_eq_true, if_false]
  rfl

theorem fenceBody_numbered {m : Char} {length : Nat} {body : List Text}
    (hbody : ∀ t ∈ body, endsFence m length (.ofText 0 t true) = false) {closing : Text}
    (hclosing : endsFence m length (.ofText 0 closing true) = true) (n : Nat) (rest : List Line) :
    fenceBody {} m length (numbered n (body ++ [closing]) ++ rest) = (numbered n body, true) := by
  induction body generalizing n with
  | nil =>
    change fenceBody {} m length (.ofText n closing true :: rest) = _
    rw [fenceBody_cons (indent_ofText_nonneg n closing true) rfl, endsFence_ofText,
      hclosing, if_pos rfl]
    rfl
  | cons t body ih =>
    have hlines := ih (fun t' ht' => hbody t' (List.mem_cons_of_mem _ ht')) (n + 1)
    change fenceBody {} m length
      (.ofText n t true :: (numbered (n + 1) (body ++ [closing]) ++ rest)) = _
    rw [fenceBody_cons (indent_ofText_nonneg n t true) rfl, endsFence_ofText,
      hbody t List.mem_cons_self, hlines]
    rfl

theorem cut_zero (l : Line) : l.cut 0 = l.text := by
  rw [Line.cut]
  cases l.text <;> simp [Line.cutFrom]

theorem cutAll_numbered (n : Nat) (ts : List Text) :
    Line.cutAll 0 (numbered n ts) = unlines (ts ++ [[]]) := by
  induction ts generalizing n with
  | nil => rfl
  | cons t ts ih =>
    obtain ⟨u, us, hus⟩ := List.exists_cons_of_ne_nil (show ts ++ [[]] ≠ [] by simp)
    have hcut : Line.cutAll 0 (numbered n (t :: ts)) =
        (Line.ofText n t true).cut 0 ++ ['\n'] ++ Line.cutAll 0 (numbered (n + 1) ts) := rfl
    rw [hcut, ih, cut_zero, List.cons_append, hus, unlines, unlines, joinWith_cons_cons]
    rfl

/-- Fenced code up to its closing fence is one block. -/
theorem readBlock_fenced (quoteBody listBody : Reader) {opening info : Text} {body : List Text}
    {m : Char} {length : Nat} (n : Nat) (hopening : openFence? opening = some (m, length, info))
    (hbar : '|' ∉ opening) {ls : List Line}
    (hbody : fenceBody {} m length ls = (numbered (n + 1) body, true)) :
    readBlock quoteBody listBody {} (.ofText n opening true) ls =
      (.fence n info (unlines (body ++ [[]])), body.length + 2) := by
  obtain ⟨hhead, hsign⟩ := of_openFence? hopening
  have hline := ofText_of_sign n hsign hhead
  have hcode : ({} : Container).isCode (.ofText n opening true) = false := by
    rw [hline]
    rfl
  have hopens : ({} : Container).fence? (.ofText n opening true) = some (m, length, info) := by
    rw [Container.fence?, hcode, hline]
    exact hopening
  have hfence : ({} : Container).fenced? (.ofText n opening true) ls =
      some (.fence n info (unlines (body ++ [[]])), body.length + 2) := by
    rw [Container.fenced?, hopens, Option.map_some, ← cutAll_numbered (n + 1) body, hline]
    simp only [hbody, length_numbered, if_true, Nat.add_comm 1, Nat.add_assoc]
    rfl
  rw [readBlock, table?_of_not_mem (not_mem_content hbar n true), Container.code?, hcode, hfence]
  rfl

/-- Fenced code comes first, and its text is made of the lines between the fences. -/
theorem begins_fenced {quoteBody listBody : Reader} {opening closing info : Text}
    {body : List Text}
    {m : Char} {length : Nat} (n : Nat) (hopening : openFence? opening = some (m, length, info))
    (hbar : '|' ∉ opening) (hbody : ∀ t ∈ body, endsFence m length (.ofText 0 t true) = false)
    (hsame : closing.head? = some m) (hcloses : closesFence m length closing = true)
    {rest : List Line}
    {cs : List Paragraph} (hrest : Begins (readBlock quoteBody listBody) rest cs) :
    Begins (readBlock quoteBody listBody) (numbered n (opening :: (body ++ [closing])) ++ rest)
      (.code ((words info).headD []) (unlines (body ++ [[]])) (some (n + 1)) :: cs) := by
  obtain ⟨hhead, hsign⟩ := of_openFence? hopening
  have hclosing : endsFence m length (.ofText 0 closing true) = true := by
    rw [ofText_of_sign 0 hsign hsame, endsFence]
    change (decide (closing.head? = some m) && !false && closesFence m length closing) = true
    rw [hsame, hcloses]
    simp
  have hfull : (Line.ofText n opening true).isEmpty = false := by
    obtain ⟨u, rfl⟩ := List.head?_eq_some_iff.1 hhead
    rw [ofText_of_sign n hsign hhead]
    rfl
  have hblock := readBlock_fenced quoteBody listBody n hopening hbar
    (fenceBody_numbered hbody hclosing (n + 1) rest)
  have hlength : (body ++ [closing]).length + 1 = body.length + 2 := by
    rw [List.length_append, List.length_singleton]
  exact begins_numbered hfull (hlength ▸ hblock) hrest

/-! ## Indented code -/

/-- A line of indented code; an empty one is not indented. -/
def indentCode (t : Text) : Text := if t = [] then [] else List.replicate 4 ' ' ++ t

/-- Whether a line of code holds more than blanks. -/
def isSolid (t : Text) : Bool := !t.all Line.isIndentation

theorem isEmpty_ofText (n : Nat) (t : Text) (ended : Bool) :
    (Line.ofText n t ended).isEmpty = t.all Line.isIndentation := by
  change (t.drop (Line.measure 0 0 t).1).isEmpty = _
  rw [drop_measure]
  induction t with
  | nil => rfl
  | cons c t ih =>
    rw [List.dropWhile_cons, List.all_cons]
    split
    · rename_i hc
      rw [hc, ih, Bool.true_and]
    · rename_i hc
      rw [Bool.not_eq_true] at hc
      rw [hc, Bool.false_and]
      rfl

theorem isEmpty_indentCode (n : Nat) (t : Text) :
    (Line.ofText n (indentCode t) true).isEmpty = !isSolid t := by
  rw [isEmpty_ofText, isSolid, Bool.not_not, indentCode]
  split
  · rename_i ht
    rw [ht]
  · rfl

theorem isCode_indentCode (n : Nat) {t : Text} (ht : isSolid t = true) :
    ({} : Container).isCode (.ofText n (indentCode t) true) = true := by
  have hne : t ≠ [] := by
    rintro rfl
    exact absurd ht (by decide)
  have hcolumn : 4 ≤ (Line.measure 0 4 t).2 := le_measure 0 4 t
  rw [indentCode, if_neg hne]
  change decide (4 ≤ ((Line.measure 0 4 t).2 : Int) - (0 : Nat)) = true
  rw [decide_eq_true_iff]
  omega

theorem cut_indentCode (n : Nat) (t : Text) : (Line.ofText n (indentCode t) true).cut 4 = t := by
  rw [indentCode]
  split
  · rename_i ht
    rw [ht]
    rfl
  · have hcut (shift : Nat) : Line.cutFrom 0 4 shift 4 t = t := by
      cases t <;> simp [Line.cutFrom]
    change Line.cutFrom 0 4 ((Line.measure 0 4 t).1) 4 t = t
    exact hcut _

theorem cutJoined_indentCode (n : Nat) (ts : List Text) :
    Line.cutJoined 4 (numbered n (ts.map indentCode)) = unlines ts := by
  rw [Line.cutJoined, unlines]
  congr 1
  induction ts generalizing n with
  | nil => rfl
  | cons t ts ih => rw [List.map_cons, numbered, List.map_cons, cut_indentCode, ih]

/-- Whether the lines behind indented code end it, with empty lines before. -/
def endsCode (ls : List Line) : Prop :=
  ∀ l ∈ (ls.dropWhile Line.isEmpty).head?, ({} : Container).isCode l = false

theorem codeLength_of_endsCode {ls : List Line} (h : endsCode ls) (taken passed : Nat) :
    codeLength {} taken passed ls = taken := by
  induction ls generalizing passed with
  | nil => rfl
  | cons l ls ih =>
    rw [endsCode, List.dropWhile_cons] at h
    rw [codeLength]
    cases hl : l.isEmpty with
    | true =>
      rw [hl, if_pos rfl] at h
      rw [if_pos rfl, ih h]
    | false =>
      rw [hl, if_neg (by decide)] at h
      rw [if_neg (by decide), if_neg (by rw [h l rfl]; decide)]

/-- All lines of indented code are taken, those that are empty if one that is not comes behind
them. -/
theorem codeLength_indentCode {ts : List Text} (hlast : ∀ t ∈ ts.getLast?, isSolid t = true)
    {rest : List Line} (hrest : endsCode rest) (n taken passed : Nat) :
    codeLength {} taken passed (numbered n (ts.map indentCode) ++ rest) =
      if ts = [] then taken else passed + ts.length := by
  induction ts generalizing n taken passed with
  | nil => exact codeLength_of_endsCode hrest taken passed
  | cons t ts ih =>
    rw [List.map_cons, numbered, List.cons_append, codeLength, isEmpty_indentCode,
      if_neg (List.cons_ne_nil t ts)]
    cases ht : isSolid t with
    | true =>
      rw [if_neg (by decide), if_pos (isCode_indentCode n ht)]
      cases ts with
      | nil => exact codeLength_of_endsCode hrest _ _
      | cons u us =>
        rw [ih (by rwa [List.getLast?_cons_cons] at hlast), if_neg (List.cons_ne_nil u us)]
        simp only [List.length_cons]
        omega
    | false =>
      cases ts with
      | nil => exact absurd (hlast t rfl) (by rw [ht]; decide)
      | cons u us =>
        rw [if_pos (by decide), ih (by rwa [List.getLast?_cons_cons] at hlast),
          if_neg (List.cons_ne_nil u us)]
        simp only [List.length_cons]
        omega

/-- Indented code is one block, as far as it reaches. -/
theorem readBlock_code (quoteBody listBody : Reader)
    {l : Line} (hcode : ({} : Container).isCode l = true) (ls : List Line) :
    readBlock quoteBody listBody {} l ls =
      (.code l.number (Line.cutJoined 4 ((l :: ls).take (codeLength {} 1 1 ls)) ++ ['\n']),
        codeLength {} 1 1 ls) := by
  have htable : ({} : Container).table? l ls = none := by
    rw [Container.table?, Option.map_eq_none_iff]
    cases ls with
    | nil => rfl
    | cons d ds => rw [Container.tableHead?, hcode, Bool.or_true, if_pos rfl]
  rw [readBlock, htable, Container.code?, if_pos hcode]
  rfl

/-- Indented code comes first, and its text is made of its lines. -/
theorem begins_indented {quoteBody listBody : Reader} {first : Text} {more : List Text} (n : Nat)
    (hfirst : isSolid first = true) (hlast : ∀ t ∈ more.getLast?, isSolid t = true)
    {rest : List Line} (hends : endsCode rest) {cs : List Paragraph}
    (hrest : Begins (readBlock quoteBody listBody) rest cs) :
    Begins (readBlock quoteBody listBody) (numbered n ((first :: more).map indentCode) ++ rest)
      (.code [] (unlines (first :: more ++ [[]])) (some (n + 1)) :: cs) := by
  have hlength : codeLength {} 1 1 (numbered (n + 1) (more.map indentCode) ++ rest) =
      more.length + 1 := by
    rw [codeLength_indentCode hlast hends]
    split
    · rename_i hmore
      rw [hmore]
      rfl
    · exact Nat.add_comm 1 _
  have htake : (numbered n ((first :: more).map indentCode) ++ rest).take (more.length + 1) =
      numbered n ((first :: more).map indentCode) :=
    List.take_left' (by simp)
  have htext :
      Line.cutJoined 4 ((numbered n ((first :: more).map indentCode) ++ rest).take
        (more.length + 1)) ++ ['\n'] = unlines (first :: more ++ [[]]) := by
    rw [htake, cutJoined_indentCode, unlines, unlines,
      joinWith_append_nil _ (List.cons_ne_nil first more)]
  have hblock : readBlock quoteBody listBody {} (.ofText n (indentCode first) true)
      (numbered (n + 1) (more.map indentCode) ++ rest) =
        (.code n (unlines (first :: more ++ [[]])), (more.map indentCode).length + 1) := by
    rw [readBlock_code quoteBody listBody (isCode_indentCode n hfirst), hlength, ← htext,
      List.length_map]
    rfl
  exact begins_numbered (by rw [isEmpty_indentCode, hfirst]; rfl) hblock hrest

end Concordance.Markdown
