/-
# `FullTextSearch.Settings.Reference` — references to variables in the value of another.

A value may name variables: `${NAME}` stands for the variable of that name, and `${NAME:-text}` for
`text` where there is none.  All else stands for itself, a dollar sign that starts no reference
included.  A fallback is taken as it stands: it holds no references of its own.

A text is first cut into `Piece`s, and each piece then gives its text.  Every piece takes at least one
code point (`length_nextPiece_le`), so the cutting comes to an end.
-/
import FullTextSearch.Text.Blank

namespace FullTextSearch.EnvFile

/-- A part of a value. -/
inductive Piece where
  /-- A code point that stands for itself. -/
  | plain (c : Char)
  /-- A variable, and the text for it where there is none. -/
  | reference (name fallback : Text)
deriving DecidableEq, Repr

/-! ## Cutting -/

/-- A name ends at a closing brace or a colon. -/
def inName (c : Char) : Bool := c != '}' && c != ':'

/-- The reference whose opening brace stands just before a text, and what follows it.  Behind a name
only a fallback or the closing brace may stand. -/
def readReference? (t : Text) : Option (Piece × Text) :=
  match t.dropWhile inName with
  | '}' :: after => some (.reference (t.takeWhile inName) [], after)
  | ':' :: '-' :: rest =>
    match rest.dropWhile (· != '}') with
    | _ :: after => some (.reference (t.takeWhile inName) (rest.takeWhile (· != '}')), after)
    | [] => none
  | _ => none

/-- The piece that starts with a code point and goes on in a text, and what follows it. -/
def nextPiece (c : Char) (t : Text) : Piece × Text :=
  match c, t with
  | '$', '{' :: rest => (readReference? rest).getD (.plain c, t)
  | _, _ => (.plain c, t)

/-- Dropping a front part makes no text longer. -/
theorem length_dropWhile_le (p : Char → Bool) (t : Text) : (t.dropWhile p).length ≤ t.length :=
  (List.dropWhile_suffix p).length_le

/-- What follows a reference is shorter than the text it was read from. -/
theorem length_lt_of_readReference? {t after : Text} {piece : Piece}
    (h : readReference? t = some (piece, after)) : after.length < t.length := by
  have hname := length_dropWhile_le inName t
  unfold readReference? at h
  split at h
  · rename_i rest heq
    obtain ⟨-, rfl⟩ := Prod.mk.inj (Option.some.inj h)
    rw [heq] at hname
    exact hname
  · rename_i rest heq
    have hfallback := length_dropWhile_le (· != '}') rest
    split at h
    · rename_i close tail htail
      obtain ⟨-, rfl⟩ := Prod.mk.inj (Option.some.inj h)
      rw [htail] at hfallback
      rw [heq] at hname
      simp only [List.length_cons] at hfallback hname
      omega
    · cases h
  · cases h

/-- What follows a piece is no longer than what followed its first code point. -/
theorem length_nextPiece_le (c : Char) (t : Text) : (nextPiece c t).2.length ≤ t.length := by
  unfold nextPiece
  split
  · rename_i rest
    cases h : readReference? rest with
    | none => exact Nat.le_refl _
    | some found =>
      obtain ⟨piece, after⟩ := found
      exact Nat.le_of_lt (Nat.lt_succ_of_lt (length_lt_of_readReference? h))
  · exact Nat.le_refl _

/-- The pieces of a text, in order. -/
def pieces : Text → List Piece
  | [] => []
  | c :: t => (nextPiece c t).1 :: pieces (nextPiece c t).2
termination_by t => t.length
decreasing_by exact Nat.lt_succ_of_le (length_nextPiece_le c t)

/-! ## Replacing -/

/-- The text of a piece, where names mean what they do in `meaning?`. -/
def Piece.text (meaning? : Text → Option Text) : Piece → Text
  | .plain c => [c]
  | .reference name fallback => (meaning? name).getD fallback

/-- A text with each reference replaced. -/
def expand (meaning? : Text → Option Text) (t : Text) : Text :=
  (pieces t).flatMap (Piece.text meaning?)

end FullTextSearch.EnvFile
