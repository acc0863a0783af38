/-
# `FullTextSearch.Proofs.Negation` — the operand that a negation stands in front of.

A minus is written as `!`, and the database negates the operand that this sign is glued to.  The
pass over the tokens glues an operand to the last token it wrote, and a phrase without words is
never written.  So a minus negates the nearest operand behind it, whatever empty phrases stand
between the two: in `-"" foo` that is `foo`, although the minus was typed in front of the phrase.

The rendered text is first cut at an operand (`ofTokens_eq_inFront_append`): in front of the operand
stands what the tokens before it write and what separates it from them (`inFront`).  How that text
ends is then read off the last token that writes anything (`negated_iff_lastLoud`).  The main
statement is `negated_iff_minus_before`, and `negated_behind_empty_phrase` is the search string of
which the stricter rule fails.
-/
import FullTextSearch.Proofs.Juxtaposition

namespace FullTextSearch.Query

open Grammar

/-! ## The last token that writes -/

/-- Of a token that writes and empty phrases behind it, only the token is left. -/
theorem loud_cons_of_silent {u : Token} (hu : isSilent u = false) {empty : List Token}
    (hempty : ∀ s ∈ empty, isSilent s = true) : loud (u :: empty) = [u] := by
  rw [loud, List.filter_cons_of_pos (by simp [hu]), List.cons.injEq]
  exact ⟨rfl, List.filter_eq_nil_iff.mpr fun s hs => by simp [hempty s hs]⟩

/-- The last token that writes is the one that only empty phrases stand behind. -/
theorem lastLoud_eq_some_iff {ts : List Token} {u : Token} :
    lastLoud ts = some u ↔ isSilent u = false ∧
      ∃ front empty, ts = front ++ u :: empty ∧ ∀ s ∈ empty, isSilent s = true := by
  constructor
  · intro h
    obtain ⟨written, hwritten⟩ := List.getLast?_eq_some_iff.mp h
    obtain ⟨first, behind, rfl, -, hbehind⟩ := List.filter_eq_append_iff.mp hwritten
    obtain ⟨between, empty, rfl, -, hu, hempty⟩ := List.filter_eq_cons_iff.mp hbehind
    refine ⟨by simpa using hu, first ++ between, empty, by simp, ?_⟩
    intro s hs
    simpa using List.filter_eq_nil_iff.mp hempty s hs
  · rintro ⟨hu, front, empty, rfl, hempty⟩
    rw [lastLoud, loud, List.filter_append, ← loud, ← loud, loud_cons_of_silent hu hempty,
      List.getLast?_concat]

/-! ## Operands in rendered text -/

/-- Whether a token writes an operand: a word, a phrase that holds a word, or a group, of which it
writes the parenthesis that opens it. -/
def writesOperand : Token → Bool
  | .word _ | .openParen => true
  | .phrase t => !t.words.isEmpty
  | .and | .or | .minus | .around _ | .closeParen => false

/-- The operand that a token writes behind a previous one. -/
def operand (previous : Option Token) : Token → Text
  | .word t => t
  | .phrase t => phraseText t.words (standsBare previous)
  | .openParen => ['(']
  | .and | .or | .minus | .around _ | .closeParen => []

/-- What separates the operand of a token from what is written before it.  At the start of the text
nothing stands in front of a parenthesis, not even the space that trimming takes away. -/
def separation (previous : Option Token) (t : Token) : Text :=
  if previous = none ∧ t = .openParen then [] else operandLead previous

theorem isSilent_of_writesOperand {t : Token} (h : writesOperand t = true) :
    isSilent t = false := by
  cases t with
  | phrase t => simpa [writesOperand, isSilent] using h
  | word | openParen => rfl
  | and | or | minus | around | closeParen => cases h

theorem piece_eq_separation_append {t : Token} (h : writesOperand t = true) (p : Option Token) :
    piece p t = separation p t ++ operand p t := by
  cases t with
  | word w =>
      rw [separation, if_neg (by simp)]
      rfl
  | phrase t =>
      rw [separation, if_neg (by simp)]
      exact piece_phrase p t
  | openParen =>
      cases p with
      | none => rfl
      | some p =>
          rw [separation, if_neg (by simp)]
          exact piece_openParen p
  | and | or | minus | around | closeParen => cases h

/-- An operand starts with a code point that is not blank. -/
theorem exists_operand_eq_cons {t : Token} (ht : Readable t) (h : writesOperand t = true)
    (p : Option Token) : ∃ c rest, operand p t = c :: rest ∧ isBlank c = false := by
  cases t with
  | word w =>
      have hw : w.Solid := ht.1.solid
      obtain ⟨c, rest, rfl⟩ := List.exists_cons_of_ne_nil hw.1
      exact ⟨c, rest, rfl, hw.2 c List.mem_cons_self⟩
  | phrase t =>
      show ∃ c rest, phraseText t.words (standsBare p) = c :: rest ∧ isBlank c = false
      unfold phraseText
      split
      · exact ⟨'"', _, rfl, by decide⟩
      · exact ⟨'(', _, rfl, by decide⟩
  | openParen => exact ⟨'(', [], rfl, by decide⟩
  | and | or | minus | around | closeParen => cases h

/-- The compiled text in front of the operand of a token: the marker, what the tokens before it
write, and what separates the operand from them. -/
def inFront (before : List Token) (t : Token) : Text :=
  marker ++ Text.trimStart (pieces none before ++ separation (lastLoud before) t)

/-- **The compiled text is cut at an operand.**  What stands in front of it depends on the tokens
before it alone. -/
theorem ofTokens_eq_inFront_append {before after : List Token} {t : Token}
    (hread : ∀ u ∈ before ++ t :: after, Readable u) (ht : writesOperand t = true) :
    ofTokens (before ++ t :: after) =
      inFront before t ++ operand (lastLoud before) t ++ pieces (some t) after := by
  have htRead : Readable t := hread t (by simp)
  obtain ⟨c, rest, hoperand, hc⟩ := exists_operand_eq_cons htRead ht (lastLoud before)
  have hpieces : pieces none (before ++ t :: after) =
      (pieces none before ++ separation (lastLoud before) t) ++
        c :: (rest ++ pieces (some t) after) := by
    rw [pieces_append, Option.or_none, pieces_cons (isSilent_of_writesOperand ht),
      piece_eq_separation_append ht, hoperand]
    simp
  have hrender : render (before ++ t :: after) =
      Text.trimStart (pieces none before ++ separation (lastLoud before) t) ++
        c :: (rest ++ pieces (some t) after) := by
    rw [render_eq_trimStart (readable_solid hread), ← trimStart_pieces_none, hpieces]
    exact Text.trimStart_append_cons hc _ _
  rw [ofTokens, hrender, inFront, hoperand]
  simp

/-! ## Signs in front of operands -/

/-- An operand is negated where the sign is the last code point in front of it. -/
def Negated (before : List Token) (t : Token) : Prop := (inFront before t).getLast? = some '!'

/-- A minus writes its sign last. -/
theorem getLast?_piece_minus (p : Option Token) : (piece p .minus).getLast? = some '!' := by
  rw [piece, List.getLast?_append]
  split <;> rfl

/-- Behind every token but a minus and a parenthesis, a blank stands in front of an operand. -/
theorem getLast?_operandLead {u : Token} (hminus : u ≠ .minus) (hopen : u ≠ .openParen) :
    (operandLead (some u)).getLast? = some ' ' := by
  cases u with
  | minus => exact absurd rfl hminus
  | openParen => exact absurd rfl hopen
  | word | phrase | and | or | around | closeParen => rfl

/-- What is written up to an operand ends in the sign exactly if the last token written is a minus.
Only a minus and a parenthesis have the operand glued to them. -/
theorem getLast?_pieces_append_separation_iff (before : List Token) (t : Token) :
    (pieces none before ++ separation (lastLoud before) t).getLast? = some '!' ↔
      lastLoud before = some .minus := by
  cases hlast : lastLoud before with
  | none =>
      have hnone : loud before = [] := List.getLast?_eq_none_iff.mp hlast
      have hpieces : pieces none before = [] := by
        rw [← pieces_loud, hnone]
        rfl
      rw [hpieces, List.nil_append, separation]
      split
      · simp
      · simp [operandLead, operandEnds]
  | some u =>
      obtain ⟨hu, front, empty, rfl, hempty⟩ := lastLoud_eq_some_iff.mp hlast
      have hpieces : pieces none (front ++ u :: empty) =
          pieces none front ++ piece (lastLoud front) u := by
        rw [pieces_append, Option.or_none, ← pieces_loud _ (u :: empty),
          loud_cons_of_silent hu hempty, pieces_cons hu, pieces, List.append_nil]
      have hseparation : separation (some u) t = operandLead (some u) := if_neg (by simp)
      rw [hpieces, hseparation, List.getLast?_append]
      by_cases hminus : u = .minus
      · subst hminus
        simp [operandLead, List.getLast?_append, getLast?_piece_minus]
      · by_cases hopen : u = .openParen
        · subst hopen
          rw [piece_eq_separation_append rfl]
          simp [operandLead, operand]
        · rw [getLast?_operandLead hminus hopen]
          simp [hminus]

/-- The sign stands in front of an operand exactly if the last token written before it is a
minus. -/
theorem negated_iff_lastLoud (before : List Token) (t : Token) :
    Negated before t ↔ lastLoud before = some .minus := by
  rw [← getLast?_pieces_append_separation_iff before t,
    ← Text.getLast?_trimStart_eq_some_iff (by decide), Negated, inFront, List.getLast?_append]
  cases (Text.trimStart (pieces none before ++ separation (lastLoud before) t)).getLast? with
  | none => simp [marker]
  | some c => simp

/-! ## Negated operands of search strings -/

/-- **A minus negates the nearest operand behind it.**  In the compiled text of a search string, the
sign stands directly in front of an operand exactly if a minus stands before that operand and only
empty phrases stand between the two.  Where no empty phrase stands before the operand, the minus is
the token directly before it. -/
theorem negated_iff_minus_before {x : Text} {before after : List Token} {t : Token}
    (h : Token.tokenize x = .ok (before ++ t :: after)) (ht : writesOperand t = true) :
    ofTokens (before ++ t :: after) =
        inFront before t ++ operand (lastLoud before) t ++ pieces (some t) after ∧
      (Negated before t ↔
        ∃ front empty, before = front ++ .minus :: empty ∧ ∀ s ∈ empty, isSilent s = true) ∧
      ((∀ s ∈ before.getLast?, isSilent s = false) →
        (Negated before t ↔ before.getLast? = some .minus)) := by
  have hminus : isSilent .minus = false := rfl
  have hnegated : Negated before t ↔
      ∃ front empty, before = front ++ .minus :: empty ∧ ∀ s ∈ empty, isSilent s = true := by
    rw [negated_iff_lastLoud, lastLoud_eq_some_iff, and_iff_right hminus]
  refine ⟨ofTokens_eq_inFront_append (readable_of_tokenize h) ht, hnegated, ?_⟩
  intro hwrites
  rw [hnegated]
  constructor
  · rintro ⟨front, empty, rfl, hempty⟩
    rcases List.eq_nil_or_concat empty with rfl | ⟨others, s, rfl⟩
    · exact List.getLast?_concat
    · -- the last of the empty phrases would be the token before the operand
      have hlast : (front ++ .minus :: others.concat s).getLast? = some s := by
        rw [List.concat_eq_append, ← List.cons_append, ← List.append_assoc, List.getLast?_concat]
      have hs := hwrites s hlast
      rw [hempty s (by simp)] at hs
      cases hs
  · intro hlast
    obtain ⟨front, rfl⟩ := List.getLast?_eq_some_iff.mp hlast
    exact ⟨front, [], rfl, by simp⟩

/-- A group behind a minus and two empty phrases is negated, and a word behind a group is not. -/
theorem negated_iff_minus_before_group :
    Token.tokenize "a -\"\" \" \" (b) c".toList =
        .ok ([.word ['a'], .minus, .phrase [], .phrase []] ++ .openParen ::
          [.word ['b'], .closeParen, .word ['c']]) ∧
      ofTokens ([.word ['a'], .minus, .phrase [], .phrase []] ++ .openParen ::
          [.word ['b'], .closeParen, .word ['c']]) = "pg:a & !(b) & c".toList ∧
      inFront [.word ['a'], .minus, .phrase [], .phrase []] .openParen = "pg:a & !".toList ∧
      Negated [.word ['a'], .minus, .phrase [], .phrase []] .openParen := by
  have htokens : Token.tokenize "a -\"\" \" \" (b) c".toList =
      .ok ([.word ['a'], .minus, .phrase [], .phrase []] ++ .openParen ::
        [.word ['b'], .closeParen, .word ['c']]) := rfl
  obtain ⟨-, hnegated, -⟩ := negated_iff_minus_before htokens rfl
  exact ⟨htokens, rfl, rfl, hnegated.mpr ⟨[.word ['a']], [.phrase [], .phrase []], rfl, by decide⟩⟩

/-- An empty phrase takes no negation with it: the minus in front of it negates the word behind. -/
theorem negated_behind_empty_phrase :
    ¬ ∀ x before t after, Token.tokenize x = .ok (before ++ t :: after) →
      writesOperand t = true → Negated before t → before.getLast? = some .minus := by
  intro h
  have htokens : Token.tokenize "-\"\" foo".toList =
      .ok ([.minus, .phrase []] ++ .word "foo".toList :: []) := rfl
  have hnegated : Negated [.minus, .phrase []] (.word "foo".toList) :=
    (negated_iff_lastLoud _ _).mpr rfl
  have hlast := h _ _ _ _ htokens rfl hnegated
  exact absurd hlast (by decide)

end FullTextSearch.Query
