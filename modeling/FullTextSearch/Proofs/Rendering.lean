/-
# `FullTextSearch.Proofs.Rendering` — what the pass over tokens depends on.

The pass remembers one token, and of that token only how it separates what follows.  `Alike` says
that two previous tokens separate alike; all operand ends do, and so do the two connectives.  At the
start of the text the pass writes what it would write behind a negation, up to a blank that trimming
takes away.

No token that writes anything ends in a blank, so trimming takes away blanks in front only
(`render_eq_trimStart`).
-/
import FullTextSearch.Proofs.Words
import FullTextSearch.Query.Render

namespace FullTextSearch.Query

theorem pieces_cons {t : Token} (h : isSilent t = false) (p : Option Token) (ts : List Token) :
    pieces p (t :: ts) = piece p t ++ pieces (some t) ts := by
  rw [pieces, if_neg (by simp [h])]

theorem pieces_cons_silent {t : Token} (h : isSilent t = true) (p : Option Token)
    (ts : List Token) : pieces p (t :: ts) = pieces p ts := by
  rw [pieces, if_pos h]

/-! ## Operands behind a previous token -/

/-- A token that begins an operand. -/
def startsOperand : Token → Bool
  | .word _ | .phrase _ | .minus | .openParen => true
  | _ => false

/-- Whether a phrase of one word is left bare behind a token. -/
def standsBare : Option Token → Bool
  | some .openParen | some (.around _) => true
  | _ => false

theorem piece_phrase (p : Option Token) (t : Text) :
    piece p (.phrase t) = operandLead p ++ phraseText t.words (standsBare p) := by
  rcases p with _ | p
  · rfl
  · cases p <;> rfl

theorem piece_openParen (p : Token) :
    piece (some p) .openParen = operandLead (some p) ++ ['('] := by
  cases p <;> rfl

/-! ## Previous tokens that separate alike -/

/-- Two previous tokens behind which every token writes the same. -/
def Alike (p q : Option Token) : Prop := ∀ t, piece p t = piece q t

theorem pieces_congr {p q : Option Token} (h : Alike p q) (ts : List Token) :
    pieces p ts = pieces q ts := by
  induction ts with
  | nil => rfl
  | cons t ts ih =>
      rw [pieces, pieces]
      by_cases hsilent : isSilent t = true
      · rw [if_pos hsilent, if_pos hsilent, ih]
      · rw [if_neg hsilent, if_neg hsilent, h t]

/-- All tokens that end an operand separate alike. -/
theorem alike_of_endsOperand {t u : Token} (ht : t.endsOperand = true)
    (hu : u.endsOperand = true) : Alike (some t) (some u) := by
  -- no token looks at what the operand was, only that there is one
  intro v
  cases t <;> cases ht <;> cases u <;> cases hu <;> cases v <;> rfl

/-- Both connectives separate alike. -/
theorem alike_of_isConnective {t u : Token} (ht : t.isConnective = true)
    (hu : u.isConnective = true) : Alike (some t) (some u) := by
  intro v
  cases t <;> cases ht <;> cases u <;> cases hu <;> cases v <;> rfl

/-! ## The two ends of the text -/

/-- At the start a token writes what it writes behind a negation, or that behind a space. -/
theorem piece_none (t : Token) :
    piece none t = piece (some .minus) t ∨ piece none t = ' ' :: piece (some .minus) t := by
  cases t with
  | word w => exact Or.inr rfl
  | phrase t => exact Or.inr rfl
  | and | or | minus | around | openParen | closeParen => exact Or.inl rfl

/-- Trimmed at its start, a text from the beginning is one from behind a negation. -/
theorem trimStart_pieces_none (ts : List Token) :
    Text.trimStart (pieces none ts) = Text.trimStart (pieces (some .minus) ts) := by
  induction ts with
  | nil => rfl
  | cons t ts ih =>
      rw [pieces, pieces]
      by_cases hsilent : isSilent t = true
      · rw [if_pos hsilent, if_pos hsilent, ih]
      · rw [if_neg hsilent, if_neg hsilent]
        -- at most a space in front tells the two apart
        rcases piece_none t with h | h <;> rw [h]
        rfl

/-- Trimmed at its start, a text that begins with an operand is one from behind a conjunction. -/
theorem trimStart_pieces_none_of_startsOperand {t : Token} (ht : startsOperand t = true)
    (hsilent : isSilent t = false) (ts : List Token) :
    Text.trimStart (pieces none (t :: ts)) = Text.trimStart (pieces (some .and) (t :: ts)) := by
  rw [pieces_cons hsilent, pieces_cons hsilent]
  cases t <;> cases ht <;> rfl

theorem phraseText_ne_nil (ws : List Text) (bare : Bool) : phraseText ws bare ≠ [] := by
  unfold phraseText
  split <;> simp [quoted]

theorem endsSolid_phraseText (ws : List Text) (bare : Bool) :
    (phraseText ws bare).EndsSolid := by
  unfold phraseText
  split
  · exact Text.endsSolid_concat (by decide) _
  · exact Text.endsSolid_concat (by decide) _

/-- What a token writes does not end in a blank. -/
theorem endsSolid_piece {t : Token} (h : ∀ w, t = .word w → w.Solid) (p : Option Token) :
    (piece p t).EndsSolid := by
  cases t with
  | word w => exact Text.endsSolid_append_right (h w rfl).1 (h w rfl).endsSolid _
  | phrase t =>
      exact Text.endsSolid_append_right (phraseText_ne_nil _ _) (endsSolid_phraseText _ _) _
  | and | or =>
      simp only [piece]
      split <;> decide
  | minus =>
      simp only [piece]
      split <;> split <;> decide
  | around n =>
      simp only [piece]
      split
      · decide
      · exact Text.endsSolid_concat (by decide) _
  | openParen =>
      simp only [piece]
      split
      case h_4 => split <;> decide
      all_goals decide
  | closeParen =>
      simp only [piece]
      decide

/-- The text of a token list does not end in a blank. -/
theorem endsSolid_pieces {ts : List Token} (h : ∀ w, .word w ∈ ts → w.Solid) (p : Option Token) :
    (pieces p ts).EndsSolid := by
  induction ts generalizing p with
  | nil => exact fun c hc => by simp [pieces] at hc
  | cons t ts ih =>
      have hrest := ih fun w hw => h w (List.mem_cons_of_mem t hw)
      rw [pieces]
      split
      · exact hrest p
      · refine Text.endsSolid_append (endsSolid_piece (fun w hw => h w ?_) p) (hrest (some t))
        rw [hw]
        exact List.mem_cons_self

/-- **Rendering trims in front only.**  With words that hold no blank, the rendered text is the one
behind a negation without the blanks in front of it. -/
theorem render_eq_trimStart {ts : List Token} (h : ∀ w, .word w ∈ ts → w.Solid) :
    render ts = Text.trimStart (pieces (some .minus) ts) := by
  rw [render, Text.trim, trimStart_pieces_none]
  exact Text.trimEnd_of_endsSolid (endsSolid_pieces h _).trimStart

end FullTextSearch.Query
