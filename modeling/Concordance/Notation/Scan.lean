import Concordance.Notation.Phase

/-!
# Cutting a grammar into pieces

A scan walks over a text and cuts it into layout, comments and tokens.  Which tokens may stand at a
place is decided by the place reached so far; a second scan, for comments alone, admits every token
everywhere.  A scan that succeeds loses nothing: its pieces joined together are the text.
-/

namespace Concordance.Notation

/-- What a scan carries from token to token. -/
structure Scanner (σ : Type) where
  /-- The state behind a token, if the token may stand here. -/
  next? : σ → Terminal → Option σ
  /-- Whether the text may end here. -/
  mayEnd : σ → Bool

/-- Cut a text into pieces.  A failure is the offset of the token or character that cannot stand
where it is, or, at the end of the text, of the last token. -/
def Scanner.piecesFrom {σ : Type} (m : Scanner σ) :
    (fuel : Nat) → σ → (offset last : Nat) → Text → Except Nat (List Piece)
  | _, s, _, last, [] => if m.mayEnd s then .ok [] else .error last
  | 0, _, offset, _, _ => .error offset
  | fuel + 1, s, offset, last, t =>
    match piece? (fun k => (m.next? s k).isSome) t with
    | none => .error offset
    | some (.token k, r) =>
      match m.next? s k.kind with
      | none => .error offset
      | some s' =>
        (m.piecesFrom fuel s' (offset + k.lexeme.length) offset r).map (.token k :: ·)
    | some (p, r) => (m.piecesFrom fuel s (offset + p.text.length) last r).map (p :: ·)

/-- Cut a whole text into pieces.  Each piece is at least one character long. -/
def Scanner.pieces {σ : Type} (m : Scanner σ) (s : σ) (t : Text) : Except Nat (List Piece) :=
  m.piecesFrom t.length s 0 0 t

/-- The scan that follows the order of tokens. -/
def orderly : Scanner Place := ⟨Place.next?, fun p => p.phase == .top⟩

/-- The scan that admits every token everywhere. -/
def free : Scanner Unit := ⟨fun _ _ => some (), fun _ => true⟩

/-- Each piece with the offset at which it starts. -/
def locate (offset : Nat) : List Piece → List (Nat × Piece)
  | [] => []
  | p :: ps => (offset, p) :: locate (offset + p.text.length) ps

end Concordance.Notation
