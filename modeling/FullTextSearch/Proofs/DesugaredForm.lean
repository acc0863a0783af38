/-
# `FullTextSearch.Proofs.DesugaredForm` — what rendered text is read back as.

Rendered text is read back as the desugared tokens, neither more nor less.  This module adds what
can be said of these without looking at the text: no operand stands directly behind another and no
connective behind another (`WellJoined`), and parentheses are opened and closed as in the tokens
desugaring started from (`openAfter_desugar`).

Both go through the tokens with the previous one in front.  A token never shows more of itself to
the next one than whether it ends an operand and whether it is a connective, and the last token
that it stands for shows the same.  The main statement is `tokenize_stripMarker_ofTokens`.
-/
import FullTextSearch.Proofs.Desugar
import Mathlib.Data.List.Chain

namespace FullTextSearch.Query

open Grammar

/-! ## Tokens that may stand side by side -/

/-- Whether a token may stand directly behind another: an operand may not begin where one ends, and
a connective may not follow a connective. -/
def Fits (t u : Token) : Prop :=
  ¬ (t.endsOperand = true ∧ startsOperand u = true) ∧
    ¬ (t.isConnective = true ∧ u.isConnective = true)

/-- A token list in which every token may stand behind the one before it. -/
def WellJoined (ts : List Token) : Prop := ts.IsChain Fits

/-- What may stand behind a token may stand behind every token of the same kind of end. -/
theorem wellJoined_congr_head {t u : Token} {ts : List Token} (h : WellJoined (t :: ts))
    (hends : u.endsOperand = t.endsOperand) (hconnective : u.isConnective = t.isConnective) :
    WellJoined (u :: ts) := by
  cases ts with
  | nil => exact List.IsChain.singleton u
  | cons v ts =>
      obtain ⟨hfits, hrest⟩ := List.isChain_cons_cons.mp h
      refine List.isChain_cons_cons.mpr ⟨?_, hrest⟩
      rwa [Fits, hends, hconnective]

/-- A token that begins no operand and is no connective may stand anywhere. -/
theorem wellJoined_cons {t : Token} {ts : List Token} (h : WellJoined (t :: ts))
    (hstarts : startsOperand t = false) (hconnective : t.isConnective = false) (p : Token) :
    WellJoined (p :: t :: ts) := by
  refine List.isChain_cons_cons.mpr ⟨?_, h⟩
  simp [Fits, hstarts, hconnective]

/-- With the conjunction where one is due, an operand may stand anywhere. -/
theorem wellJoined_joint {t : Token} {ts : List Token} (h : WellJoined (t :: ts))
    (hstarts : startsOperand t = true) (p : Token) :
    WellJoined (p :: (joint (some p) ++ t :: ts)) := by
  have hconnective : t.isConnective = false := by cases t <;> first | rfl | cases hstarts
  cases hp : p.endsOperand with
  | true =>
      have hjoint : joint (some p) = [.and] := by simp [joint, operandEnds, hp]
      have hpConnective : p.isConnective = false := by cases p <;> first | rfl | cases hp
      rw [hjoint, List.singleton_append]
      refine List.isChain_cons_cons.mpr ⟨?_, List.isChain_cons_cons.mpr ⟨?_, h⟩⟩
      · simp [Fits, startsOperand, hpConnective]
      · simp [Fits, Token.endsOperand, hconnective]
  | false =>
      have hjoint : joint (some p) = [] := by simp [joint, operandEnds, hp]
      rw [hjoint, List.nil_append]
      refine List.isChain_cons_cons.mpr ⟨?_, h⟩
      simp [Fits, hp, hconnective]

/-- The words of a phrase, written out up to the closing parenthesis. -/
theorem wellJoined_chained {ts : List Token} (h : WellJoined (.closeParen :: ts)) (ws : List Text)
    {p : Token} (hends : p.endsOperand = false) :
    WellJoined (p :: (chained ws ++ .closeParen :: ts)) := by
  induction ws generalizing p with
  | nil => exact wellJoined_cons h rfl rfl p
  | cons w ws ih =>
      have hfits : Fits p (.phrase w) := by simp [Fits, hends, Token.isConnective]
      cases ws with
      | nil => exact List.isChain_cons_cons.mpr ⟨hfits, wellJoined_cons h rfl rfl (.phrase w)⟩
      | cons w' ws =>
          -- one word, the operator, and the other words behind the operator
          have hrest := ih (p := .around 1) rfl
          exact List.isChain_cons_cons.mpr ⟨hfits, wellJoined_cons hrest rfl rfl (.phrase w)⟩

/-- A phrase of any number of words. -/
theorem wellJoined_phraseTokens {t : Text} {ts : List Token} (h : WellJoined (.phrase t :: ts))
    (ws : List Text) (bare : Bool) (p : Token) :
    WellJoined (p :: (joint (some p) ++ (phraseTokens ws bare ++ ts))) := by
  unfold phraseTokens
  split
  · next w =>
      have hword : WellJoined (.phrase w :: ts) := wellJoined_congr_head h rfl rfl
      exact wellJoined_joint hword rfl p
  · have hclose : WellJoined (.closeParen :: ts) := wellJoined_congr_head h rfl rfl
    have hopen := wellJoined_chained hclose ws (p := .openParen) rfl
    simpa using wellJoined_joint hopen rfl p

/-- **One token's step.**  What may stand behind a token may stand behind what it stands for. -/
theorem wellJoined_expand {t : Token} {ts : List Token} (h : WellJoined (t :: ts)) (p : Token) :
    WellJoined (p :: (expand (some p) t ++ ts)) := by
  cases t with
  | word | minus | openParen =>
      rw [expand, List.append_assoc]
      exact wellJoined_joint h rfl p
  | phrase t =>
      rw [expand, List.append_assoc]
      exact wellJoined_phraseTokens h t.words (standsBare (some p)) p
  | and | or =>
      simp only [expand]
      by_cases hp : p.isConnective = true
      · -- the connective is dropped, and the one before it takes its place
        have hends : p.endsOperand = false := by cases p <;> first | rfl | cases hp
        rw [connects, if_pos hp]
        exact wellJoined_congr_head h hends hp
      · rw [connects, if_neg hp]
        refine List.isChain_cons_cons.mpr ⟨?_, h⟩
        simp [Fits, hp, startsOperand]
  | around | closeParen => exact wellJoined_cons h rfl rfl p

theorem wellJoined_desugar_behind (p : Token) (ts : List Token) :
    WellJoined (p :: desugar (some p) ts) := by
  induction ts generalizing p with
  | nil => exact List.IsChain.singleton p
  | cons t ts ih =>
      rw [desugar]
      split
      · exact ih p
      · exact wellJoined_expand (ih t) p

/-- **Desugared tokens are well joined.** -/
theorem wellJoined_desugar (ts : List Token) : WellJoined (desugar none ts) := by
  rw [desugar_none]
  exact (wellJoined_desugar_behind .minus ts).tail

/-! ## Parentheses -/

/-- How many parentheses are open behind a token list that is entered with some; none may be closed
that is not open. -/
def openAfter (depth : Nat) : List Token → Option Nat
  | [] => some depth
  | .openParen :: ts => openAfter (depth + 1) ts
  | .closeParen :: ts =>
    match depth with
    | 0 => none
    | depth + 1 => openAfter depth ts
  | .word _ :: ts | .phrase _ :: ts | .and :: ts | .or :: ts | .minus :: ts | .around _ :: ts =>
    openAfter depth ts

/-- Every parenthesis that is closed was open, and none stays open. -/
def Balanced (ts : List Token) : Prop := openAfter 0 ts = some 0

theorem openAfter_joint (depth : Nat) (p : Option Token) (ts : List Token) :
    openAfter depth (joint p ++ ts) = openAfter depth ts := by
  unfold joint
  split <;> rfl

theorem openAfter_chained (depth : Nat) (ws : List Text) (ts : List Token) :
    openAfter depth (chained ws ++ ts) = openAfter depth ts := by
  induction ws with
  | nil => rfl
  | cons w ws ih =>
      cases ws with
      | nil => rfl
      | cons w' ws => exact ih

theorem openAfter_phraseTokens (depth : Nat) (ws : List Text) (bare : Bool) (ts : List Token) :
    openAfter depth (phraseTokens ws bare ++ ts) = openAfter depth ts := by
  unfold phraseTokens
  split
  · rfl
  · -- the parenthesis that the phrase opens is the one that it closes
    have hinner := openAfter_chained (depth + 1) ws (.closeParen :: ts)
    simpa [openAfter] using hinner

/-- What a token stands for opens and closes what the token does. -/
theorem openAfter_expand (depth : Nat) (p : Option Token) (t : Token) (ts : List Token) :
    openAfter depth (expand p t ++ ts) = openAfter depth (t :: ts) := by
  cases t with
  | word | minus | openParen =>
      rw [expand, List.append_assoc, openAfter_joint]
      rfl
  | phrase t =>
      rw [expand, List.append_assoc, openAfter_joint, openAfter_phraseTokens]
      rfl
  | and | or =>
      simp only [expand]
      split <;> rfl
  | around | closeParen => rfl

theorem openAfter_cons_congr {ts us : List Token}
    (h : ∀ depth, openAfter depth ts = openAfter depth us) (depth : Nat) (t : Token) :
    openAfter depth (t :: ts) = openAfter depth (t :: us) := by
  cases t with
  | closeParen =>
      cases depth with
      | zero => rfl
      | succ depth => exact h depth
  | openParen => exact h (depth + 1)
  | word | phrase | and | or | minus | around => exact h depth

/-- **Desugaring keeps the parentheses.** -/
theorem openAfter_desugar (depth : Nat) (p : Option Token) (ts : List Token) :
    openAfter depth (desugar p ts) = openAfter depth ts := by
  induction ts generalizing depth p with
  | nil => rfl
  | cons t ts ih =>
      rw [desugar]
      split
      · next hsilent =>
          cases t with
          | phrase t => exact ih depth p
          | word | and | or | minus | around | openParen | closeParen => cases hsilent
      · rw [openAfter_expand]
        exact openAfter_cons_congr (fun depth => ih depth (some t)) depth t

/-! ## Reading rendered text -/

/-- The tokens of a search string can be read. -/
theorem readable_of_tokenize {x : Text} {ts : List Token} (h : Token.tokenize x = .ok ts) :
    ∀ t ∈ ts, Readable t :=
  ((Scan.run_eq_ok_iff x 0 ts).mp (Scan.tokenize_eq_ok.mp h)).readable

/-- **Rendered text is read back desugared.**  For all tokens that can be read, those of every
search string among them, the rendered text is a search string and its tokens are the desugared
ones.  They are well joined, and their parentheses are balanced exactly if those of the tokens
were. -/
theorem tokenize_stripMarker_ofTokens {ts : List Token} (h : ∀ t ∈ ts, Readable t) :
    Token.tokenize (stripMarker (ofTokens ts)) = .ok (desugar none ts) ∧
      WellJoined (desugar none ts) ∧
      (Balanced (desugar none ts) ↔ Balanced ts) := by
  refine ⟨?_, wellJoined_desugar ts, ?_⟩
  · rw [ofTokens, stripMarker_marker_append, Scan.tokenize_eq_ok, Scan.run_eq_ok_iff]
    exact spells_desugar_render h
  · rw [Balanced, openAfter_desugar, Balanced]

/-- Connectives in a row, an empty phrase behind them, and single words that stand bare. -/
theorem tokenize_stripMarker_ofTokens_grouped :
    (∀ t ∈ [Token.openParen, .word ['a'], .phrase "b c".toList, .or, .and, .phrase [], .minus,
        .openParen, .phrase ['d'], .closeParen, .closeParen, .word ['e'], .around 7, .phrase ['f']],
      Readable t) ∧
    Balanced [.openParen, .word ['a'], .phrase "b c".toList, .or, .and, .phrase [], .minus,
      .openParen, .phrase ['d'], .closeParen, .closeParen, .word ['e'], .around 7, .phrase ['f']] ∧
    Token.tokenize (stripMarker (ofTokens [.openParen, .word ['a'], .phrase "b c".toList, .or, .and,
        .phrase [], .minus, .openParen, .phrase ['d'], .closeParen, .closeParen, .word ['e'],
        .around 7, .phrase ['f']])) =
      .ok [.openParen, .word ['a'], .and, .openParen, .phrase ['b'], .around 1, .phrase ['c'],
        .closeParen, .or, .minus, .openParen, .phrase ['d'], .closeParen, .closeParen, .and,
        .word ['e'], .around 7, .phrase ['f']] ∧
    WellJoined [.openParen, .word ['a'], .and, .openParen, .phrase ['b'], .around 1, .phrase ['c'],
      .closeParen, .or, .minus, .openParen, .phrase ['d'], .closeParen, .closeParen, .and,
      .word ['e'], .around 7, .phrase ['f']] := by
  have hreadable := readable_of_tokenize
    (x := "(a \"b  c\" OR & \"\" -(\"d\")) e <7> \"f".toList) rfl
  obtain ⟨htokens, hjoined, -⟩ := tokenize_stripMarker_ofTokens hreadable
  exact ⟨hreadable, rfl, htokens, hjoined⟩

end FullTextSearch.Query
