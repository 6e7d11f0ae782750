import Concordance.Notation.Scan
import Concordance.Proofs.Notation.Piece

/-!
# How a scan cuts a text

`Scanner.Cuts` says which pieces a scan cuts a text into, without offsets and without a bound on
the number of steps:

* `pieces_eq_ok`: a scan succeeds with these pieces exactly if it cuts the text into them;
* `Scanner.Cuts.textOf`: the pieces joined together are the text;
* `cuts_textOf` and `exists_cuts_textOf`: pieces that keep apart what would glue together are what
  their own text is cut into.
-/

namespace Concordance.Notation

variable {σ : Type} {m : Scanner σ} {s : σ} {t : Text} {ps qs : List Piece}

/-! ## Pieces -/

/-- The text that pieces make up. -/
def textOf (ps : List Piece) : Text := ps.flatMap Piece.text

/-- The token that a piece is, if it is one. -/
def Piece.token? : Piece → Option Token
  | .token k => some k
  | _ => none

/-- The tokens among pieces. -/
def tokensOf (ps : List Piece) : List Token := ps.filterMap Piece.token?

@[simp] theorem textOf_nil : textOf [] = [] := rfl

@[simp] theorem textOf_cons (p : Piece) (ps : List Piece) :
    textOf (p :: ps) = p.text ++ textOf ps :=
  rfl

theorem textOf_append (ps qs : List Piece) : textOf (ps ++ qs) = textOf ps ++ textOf qs :=
  List.flatMap_append

@[simp] theorem tokensOf_nil : tokensOf [] = [] := rfl

@[simp] theorem tokensOf_token (k : Token) (ps : List Piece) :
    tokensOf (.token k :: ps) = k :: tokensOf ps := rfl

theorem tokensOf_skip {p : Piece} (hp : p.token? = none) (ps : List Piece) :
    tokensOf (p :: ps) = tokensOf ps := by
  rw [tokensOf, List.filterMap_cons_none hp, tokensOf]

/-! ## Cuts -/

/-- The terminals that a scan admits in a state. -/
def Scanner.admits (m : Scanner σ) (s : σ) (k : Terminal) : Bool := (m.next? s k).isSome

/-- The scan cuts the text into the pieces. -/
inductive Scanner.Cuts (m : Scanner σ) : σ → Text → List Piece → Prop where
  | done {s : σ} : m.mayEnd s = true → Scanner.Cuts m s [] []
  | token {s s' : σ} {t r : Text} {k : Token} {ps : List Piece} :
      piece? (m.admits s) t = some (.token k, r) → m.next? s k.kind = some s' →
      Scanner.Cuts m s' r ps → Scanner.Cuts m s t (.token k :: ps)
  | skip {s : σ} {t r : Text} {p : Piece} {ps : List Piece} :
      p.token? = none → piece? (m.admits s) t = some (p, r) →
      Scanner.Cuts m s r ps → Scanner.Cuts m s t (p :: ps)

/-- The pieces joined together are the text. -/
theorem Scanner.Cuts.textOf (h : m.Cuts s t ps) : textOf ps = t := by
  induction h with
  | done => rfl
  | token hp _ _ ih => rw [textOf_cons, ih, ← (piece?_eq_append hp).1]
  | skip _ hp _ ih => rw [textOf_cons, ih, ← (piece?_eq_append hp).1]

/-- No piece is empty. -/
theorem Scanner.Cuts.text_ne_nil (h : m.Cuts s t ps) : ∀ p ∈ ps, p.text ≠ [] := by
  induction h with
  | done => exact nofun
  | token hp _ _ ih | skip _ hp _ ih => exact List.forall_mem_cons.2 ⟨(piece?_eq_append hp).2, ih⟩

theorem exists_of_map_eq_ok {ε α β : Type} {x : Except ε α} {f : α → β} {b : β}
    (h : x.map f = .ok b) : ∃ a, x = .ok a ∧ f a = b := by
  cases x with
  | error e => exact absurd h (by simp [Except.map])
  | ok a => exact ⟨a, rfl, Except.ok.inj h⟩

theorem cuts_of_piecesFrom {fuel o last : Nat} (h : m.piecesFrom fuel s o last t = .ok ps) :
    m.Cuts s t ps := by
  fun_induction Scanner.piecesFrom m fuel s o last t generalizing ps with
  | case1 _ _ _ _ hend =>
    obtain rfl := Except.ok.inj h
    exact .done hend
  | case2 => simp at h
  | case3 => simp at h
  | case4 => simp at h
  | case5 => simp at h
  | case6 _ _ _ _ _ _ _ _ hp _ hs ih =>
    obtain ⟨qs, hq, rfl⟩ := exists_of_map_eq_ok h
    exact .token hp hs (ih hq)
  | case7 _ _ _ _ _ _ p _ hk hp ih =>
    obtain ⟨qs, hq, rfl⟩ := exists_of_map_eq_ok h
    refine .skip ?_ hp (ih hq)
    cases p with
    | layout | comment => rfl
    | token k => exact (hk k rfl).elim

/-- A piece is not empty, so a unit of fuel for each character is enough. -/
theorem exists_fuel_of_piece? {accepts : Terminal → Bool} {r : Text} {p : Piece}
    (h : piece? accepts t = some (p, r)) {fuel : Nat} (hf : t.length ≤ fuel) :
    ∃ c u fuel', t = c :: u ∧ fuel = fuel' + 1 ∧ r.length ≤ fuel' := by
  obtain ⟨rfl, hp⟩ := piece?_eq_append h
  obtain ⟨c, v, hv⟩ := List.exists_cons_of_ne_nil hp
  rw [hv, List.cons_append, List.length_cons, List.length_append] at hf
  obtain ⟨fuel', rfl⟩ := Nat.exists_eq_succ_of_ne_zero (show fuel ≠ 0 by omega)
  exact ⟨c, v ++ r, fuel', by rw [hv, List.cons_append], rfl, by omega⟩

theorem piecesFrom_of_cuts (h : m.Cuts s t ps) {fuel o last : Nat} (hf : t.length ≤ fuel) :
    m.piecesFrom fuel s o last t = .ok ps := by
  induction h generalizing fuel o last with
  | done hend => simp only [Scanner.piecesFrom, if_pos hend]
  | @token s s' t r k ps hp hs _ ih =>
    obtain ⟨c, t, fuel, rfl, rfl, hr⟩ := exists_fuel_of_piece? hp hf
    have hp' : piece? (fun k => (m.next? s k).isSome) (c :: t) = some (.token k, r) := hp
    simp only [Scanner.piecesFrom, hp', hs, ih hr, Except.map]
  | @skip s t r p ps hk hp _ ih =>
    obtain ⟨c, t, fuel, rfl, rfl, hr⟩ := exists_fuel_of_piece? hp hf
    have hp' : piece? (fun k => (m.next? s k).isSome) (c :: t) = some (p, r) := hp
    cases p with
    | token k => simp [Piece.token?] at hk
    | layout | comment => simp only [Scanner.piecesFrom, hp', ih hr, Except.map]

/-- A scan succeeds with some pieces exactly if it cuts the text into them. -/
theorem pieces_eq_ok : m.pieces s t = .ok ps ↔ m.Cuts s t ps :=
  ⟨cuts_of_piecesFrom, fun h => piecesFrom_of_cuts h (Nat.le_refl _)⟩

/-- A scan cuts a text in one way. -/
theorem Scanner.Cuts.unique (h : m.Cuts s t ps) (h' : m.Cuts s t qs) : ps = qs :=
  Except.ok.inj ((pieces_eq_ok.2 h).symm.trans (pieces_eq_ok.2 h'))

/-! ## Runs -/

/-- The tokens lead the scan from one state to another. -/
inductive Scanner.Runs (m : Scanner σ) : σ → List Token → σ → Prop where
  | nil {s : σ} : Scanner.Runs m s [] s
  | cons {s s' q : σ} {k : Token} {ks : List Token} :
      m.next? s k.kind = some s' → k.IsLexeme → k.Clear (m.admits s) → Scanner.Runs m s' ks q →
      Scanner.Runs m s (k :: ks) q

theorem Scanner.Runs.append {s' q : σ} {ks js : List Token} (h : m.Runs s ks s')
    (h' : m.Runs s' js q) : m.Runs s (ks ++ js) q := by
  induction h with
  | nil => exact h'
  | cons hn hk hc _ ih => exact .cons hn hk hc (ih h')

/-- The tokens of a text that a scan cuts lead it to a state where a text may end. -/
theorem Scanner.Cuts.runs (h : m.Cuts s t ps) :
    ∃ q, m.mayEnd q = true ∧ m.Runs s (tokensOf ps) q := by
  induction h with
  | @done s hend => exact ⟨s, hend, .nil⟩
  | token hp hs _ ih =>
    obtain ⟨q, hend, hq⟩ := ih
    obtain ⟨hk, -, -, hc, -⟩ := of_piece?_token hp
    exact ⟨q, hend, .cons hs hk hc hq⟩
  | skip hk _ _ ih =>
    rw [tokensOf_skip hk]
    exact ih

/-! ## Spacing -/

/-- Layout and lexemes that keep apart what would glue together. -/
inductive WellSpaced : List Piece → Prop where
  | nil : WellSpaced []
  | layout {w : Text} {ps : List Piece} :
      w ≠ [] → (∀ c ∈ w, isLayout c = true) → (∀ c ∈ (textOf ps).head?, isLayout c = false) →
      WellSpaced ps → WellSpaced (.layout w :: ps)
  | token {k : Token} {ps : List Piece} :
      k.IsLexeme → k.kind.Stops (textOf ps) → WellSpaced ps → WellSpaced (.token k :: ps)

/-- Well spaced pieces are what their text is cut into, if the scan can take their tokens. -/
theorem cuts_textOf (h : WellSpaced ps) {q : σ} (hr : m.Runs s (tokensOf ps) q)
    (hend : m.mayEnd q = true) : m.Cuts s (textOf ps) ps := by
  induction h generalizing s with
  | nil =>
    cases hr
    exact .done hend
  | layout hne hw hstop _ ih =>
    exact .skip rfl (piece?_layout_append hne hw hstop) (ih hr)
  | token hk hstop _ ih =>
    obtain _ | ⟨hn, -, hc, hr⟩ := hr
    have ha : m.admits s _ = true := Option.isSome_iff_exists.2 ⟨_, hn⟩
    exact .token (piece?_append hk ha hc hstop) hn (ih hr)

/-- Where everything is admitted, a name that is spelled like a keyword is read as the keyword. -/
theorem piece?_all_append {k : Token} {r : Text} (hk : k.IsLexeme) (hr : k.kind.Stops r) :
    ∃ j, piece? (free.admits ()) (k.lexeme ++ r) = some (.token j, r) := by
  by_cases hc : k.Clear (free.admits ())
  · exact ⟨k, piece?_append hk rfl hc hr⟩
  · simp only [Token.Clear, Classical.not_forall, ne_eq, Classical.not_not, exists_prop] at hc
    obtain ⟨hname, j, hj, ha, hw⟩ := hc
    refine ⟨⟨j, k.lexeme⟩, ?_⟩
    refine piece?_append (k := ⟨j, k.lexeme⟩) ?_ ha ?_ ?_
    · rcases hj with rfl | rfl <;> exact hw
    · rcases hj with rfl | rfl <;> exact fun h => by simp at h
    · rw [hname] at hr
      rcases hj with rfl | rfl <;> exact hr

theorem exists_cuts_textOf (h : WellSpaced ps) : ∃ qs, free.Cuts () (textOf ps) qs := by
  induction h with
  | nil => exact ⟨[], .done rfl⟩
  | layout hne hw hstop _ ih =>
    obtain ⟨qs, hq⟩ := ih
    exact ⟨_, .skip rfl (piece?_layout_append hne hw hstop) hq⟩
  | token hk hstop _ ih =>
    obtain ⟨qs, hq⟩ := ih
    obtain ⟨j, hj⟩ := piece?_all_append hk hstop
    exact ⟨_, .token hj rfl hq⟩

end Concordance.Notation
