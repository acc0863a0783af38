/-
# `FullTextSearch.Proofs.Desugar` — rendered text read back as tokens.

Rendering says more than the tokens it starts from: a conjunction between operands that follow each
other is written out, a phrase is written as its words in order, and a connective behind another one
is dropped.  `desugar` is that step on tokens alone.  Two facts tie it to the text, and they meet in
a round trip:

* the rendered text of a token list spells the desugared list (`spells_desugar_render`), so reading
  it back cannot fail and yields exactly that list;
* desugaring changes nothing about the rendered text (`render_desugar`).

Both go through the tokens one by one and need only what the previous token was.
-/
import FullTextSearch.Proofs.Rendering
import FullTextSearch.Proofs.Scanning
import FullTextSearch.Query.Compiled

namespace FullTextSearch.Query

open Grammar

/-! ## Tokens written out -/

/-- The conjunction that stands between two operands. -/
def joint (previous : Option Token) : List Token := if operandEnds previous then [.and] else []

/-- The words of a phrase as phrases of one word, each directly behind the one before. -/
def chained : List Text → List Token
  | [] => []
  | [w] => [.phrase w]
  | w :: w' :: ws => .phrase w :: .around 1 :: chained (w' :: ws)

/-- The tokens of a phrase: its words in parentheses, or a single word bare where asked. -/
def phraseTokens (words : List Text) (bare : Bool) : List Token :=
  match words, bare with
  | [w], true => [.phrase w]
  | _, _ => [.openParen] ++ chained words ++ [.closeParen]

/-- The tokens that one token stands for behind a previous one. -/
def expand (previous : Option Token) : Token → List Token
  | .word w => joint previous ++ [.word w]
  | .phrase t => joint previous ++ phraseTokens t.words (standsBare previous)
  | .and => if connects previous then [] else [.and]
  | .or => if connects previous then [] else [.or]
  | .minus => joint previous ++ [.minus]
  | .around n => [.around n]
  | .openParen => joint previous ++ [.openParen]
  | .closeParen => [.closeParen]

/-- **Desugaring.**  The tokens that a token list stands for behind a previous token; a phrase
without words stands for nothing and is not a previous token either. -/
def desugar (previous : Option Token) : List Token → List Token
  | [] => []
  | t :: rest =>
    if isSilent t then desugar previous rest else expand previous t ++ desugar (some t) rest

/-- At the start a token stands for what it stands for behind a negation. -/
theorem desugar_none (ts : List Token) : desugar none ts = desugar (some .minus) ts := by
  induction ts with
  | nil => rfl
  | cons t ts ih =>
      have hexpand : expand none t = expand (some .minus) t := by cases t <;> rfl
      rw [desugar, desugar, ih, hexpand]

/-! ## Rendered text spells the desugared tokens -/

/-- Behind a closing parenthesis every token starts with a blank or is one more parenthesis. -/
theorem exists_piece_closeParen (t : Token) :
    ∃ c rest, piece (some .closeParen) t = c :: rest ∧ (c = ' ' ∨ c = ')') := by
  cases t with
  | closeParen => exact ⟨')', _, rfl, Or.inr rfl⟩
  | around n =>
      simp only [piece]
      split
      · exact ⟨' ', _, rfl, Or.inl rfl⟩
      · exact ⟨' ', _, rfl, Or.inl rfl⟩
  | word | phrase | and | or | minus | openParen => exact ⟨' ', _, rfl, Or.inl rfl⟩

/-- Behind the end of an operand the text goes on with a blank or a closing parenthesis. -/
theorem head?_pieces_of_endsOperand {p : Token} (hp : p.endsOperand = true) (ts : List Token) :
    ∀ c ∈ (pieces (some p) ts).head?, c = ' ' ∨ c = ')' := by
  rw [pieces_congr (alike_of_endsOperand hp (u := .closeParen) rfl)]
  induction ts with
  | nil => simp [pieces]
  | cons t ts ih =>
      rw [pieces]
      split
      · exact ih
      · obtain ⟨c, rest, hpiece, hc⟩ := exists_piece_closeParen t
        intro d hd
        rw [hpiece] at hd
        cases hd
        exact hc

/-- A word parts from the text behind it. -/
theorem parted_pieces (w : Text) (ts : List Token) : Parted w (pieces (some (.word w)) ts) := by
  intro _ c hc
  rcases head?_pieces_of_endsOperand (p := .word w) rfl ts c hc with rfl | rfl
  · exact ⟨by decide, fun h => absurd h (by decide)⟩
  · exact ⟨by decide, fun h => absurd h (by decide)⟩

/-- The conjunction as it is written between two operands. -/
theorem spells_and {ts : List Token} {x : Text} (h : Spells ts x) :
    Spells (.and :: ts) (' ' :: '&' :: ' ' :: x) := by
  have hspace : Spells ts (' ' :: x) := h.cons_blank (by decide)
  have hsign : Spells (.and :: ts) ('&' :: ' ' :: x) :=
    Spells.cons_lexeme .andSign (by decide) hspace
  exact hsign.cons_blank (by decide)

/-- What stands in front of an operand is blanks, with the conjunction if there is one. -/
theorem spells_operandLead (p : Option Token) {ts : List Token} {x : Text} (h : Spells ts x) :
    Spells (joint p ++ ts) (operandLead p ++ x) := by
  have hspace : Spells ts (' ' :: x) := h.cons_blank (by decide)
  rcases p with _ | p
  · exact hspace
  · cases p with
    | word | phrase | closeParen => exact spells_and h
    | and | or | around => exact hspace
    | openParen | minus => exact h

theorem spells_quoted {w : Text} (hw : w.Solid) (hquote : '"' ∉ w) {ts : List Token} {x : Text}
    (h : Spells ts x) : Spells (.phrase w :: ts) (quoted w ++ x) := by
  have hspelling := Lexeme.phrase hquote
  rw [Text.collapse_of_solid hw] at hspelling
  exact Spells.cons_lexeme hspelling (not_isBareword_of_mem (c := '"') (by simp [quoted]) rfl) h

/-- The words of a phrase, written out, spell themselves. -/
theorem spells_chained {ws : List Text} (hws : ∀ w ∈ ws, w.Solid ∧ '"' ∉ w) {ts : List Token}
    {x : Text} (h : Spells ts x) :
    Spells (chained ws ++ ts) (List.intercalate " <-> ".toList (ws.map quoted) ++ x) := by
  induction ws with
  | nil => exact h
  | cons w ws ih =>
      obtain ⟨hw, hrest⟩ := List.forall_mem_cons.mp hws
      cases ws with
      | nil =>
          rw [List.map_singleton, List.intercalate_singleton]
          exact spells_quoted hw.1 hw.2 h
      | cons w' ws =>
          -- one word, the operator between two blanks, and the other words
          have hspace := (ih hrest).cons_blank (c := ' ') (by decide)
          have harrow := (Spells.cons_lexeme .arrow (by decide) hspace).cons_blank (c := ' ')
            (by decide)
          rw [List.map_cons, List.map_cons, List.intercalate_cons_cons, List.append_assoc,
            List.append_assoc]
          exact spells_quoted hw.1 hw.2 harrow

theorem spells_phraseText {ws : List Text} (hws : ∀ w ∈ ws, w.Solid ∧ '"' ∉ w) (bare : Bool)
    {ts : List Token} {x : Text} (h : Spells ts x) :
    Spells (phraseTokens ws bare ++ ts) (phraseText ws bare ++ x) := by
  unfold phraseTokens phraseText
  split
  · next w =>
      have hw := hws w List.mem_cons_self
      exact spells_quoted hw.1 hw.2 h
  · have hclose : Spells (.closeParen :: ts) (')' :: x) :=
      Spells.cons_lexeme .closeParen (by decide) h
    have hopen := Spells.cons_lexeme .openParen (by decide) (spells_chained hws hclose)
    simpa using hopen

/-- **What a token writes spells what it stands for,** put in front of any spelling that parts from
it. -/
theorem spells_piece {t : Token} (ht : Readable t) {ts : List Token} {x : Text}
    (hparted : ∀ w, t = .word w → Parted w x) (h : Spells ts x) (p : Option Token) :
    Spells (expand p t ++ ts) (piece p t ++ x) := by
  cases t with
  | word w =>
      obtain ⟨hbare, hand, hor⟩ := ht
      have hword : Spells (.word w :: ts) (w ++ x) :=
        .cons_parted (.word hbare hand hor) (hparted w rfl) h
      simpa [expand, piece] using spells_operandLead p hword
  | phrase t =>
      have hws : ∀ w ∈ t.words, w.Solid ∧ '"' ∉ w := fun w hw =>
        ⟨Text.solid_of_mem_words hw, fun hmem => ht (Text.mem_of_mem_words hw hmem)⟩
      have hphrase := spells_phraseText hws (standsBare p) h
      rw [expand, piece_phrase, List.append_assoc, List.append_assoc]
      exact spells_operandLead p hphrase
  | and =>
      simp only [expand, piece]
      split
      · exact h
      · exact (Spells.cons_lexeme .andSign (by decide) h).cons_blank (by decide)
  | or =>
      simp only [expand, piece]
      split
      · exact h
      · exact (Spells.cons_lexeme .orSign (by decide) h).cons_blank (by decide)
  | minus =>
      have hbang : Spells (.minus :: ts) ('!' :: x) := Spells.cons_lexeme .bang (by decide) h
      have hspace : Spells (.minus :: ts) (' ' :: '!' :: x) := hbang.cons_blank (by decide)
      -- a negation is glued to an open parenthesis, but not to another negation
      rcases p with _ | p
      · exact hspace
      · cases p with
        | word | phrase | closeParen => exact spells_and hbang
        | and | or | around | minus => exact hspace
        | openParen => exact hbang
  | around n =>
      obtain ⟨k, rfl, hk⟩ := ht
      simp only [expand, piece]
      split
      · next hone =>
          rw [hone]
          exact (Spells.cons_lexeme .arrow (by decide) h).cons_blank (by decide)
      · have hangle := Spells.cons_lexeme (.angle (isDistance_ofNat hk))
          (not_isBareword_of_mem (c := '<') (by simp) rfl) h
        simpa [Numeral.ofInt] using hangle.cons_blank (c := ' ') (by decide)
  | openParen =>
      have hparen : Spells (.openParen :: ts) ('(' :: x) :=
        Spells.cons_lexeme .openParen (by decide) h
      have hspace : Spells (.openParen :: ts) (' ' :: '(' :: x) := hparen.cons_blank (by decide)
      -- a parenthesis is glued to the parenthesis or the negation in front of it
      rcases p with _ | p
      · exact hparen
      · cases p with
        | word | phrase | closeParen => exact spells_and hparen
        | and | or | around => exact hspace
        | minus | openParen => exact hparen
  | closeParen => exact Spells.cons_lexeme (l := [')']) .closeParen (by decide) h

/-- The text of a token list spells the desugared list. -/
theorem spells_pieces {ts : List Token} (hts : ∀ t ∈ ts, Readable t) (p : Option Token) :
    Spells (desugar p ts) (pieces p ts) := by
  induction ts generalizing p with
  | nil => exact .blank rfl
  | cons t ts ih =>
      obtain ⟨ht, hrest⟩ := List.forall_mem_cons.mp hts
      rw [desugar, pieces]
      split
      · exact ih hrest p
      · refine spells_piece ht (fun w hw => ?_) (ih hrest (some t)) p
        rw [hw]
        exact parted_pieces w ts

/-! ## Desugared tokens render to the same text -/

/-- Behind the end of an operand the next one writes the conjunction and what it writes behind
that. -/
theorem piece_of_endsOperand {p t : Token} (hp : p.endsOperand = true)
    (ht : startsOperand t = true) :
    piece (some p) t = piece (some p) .and ++ piece (some .and) t := by
  cases p <;> cases hp <;> cases t <;> cases ht <;> rfl

/-- Written out, the conjunction in front of an operand takes no more than its place. -/
theorem pieces_joint {p t : Token} (ht : startsOperand t = true) (hsilent : isSilent t = false)
    (ts : List Token) :
    pieces (some p) (joint (some p) ++ t :: ts) = piece (some p) t ++ pieces (some t) ts := by
  cases hp : p.endsOperand with
  | true =>
      have hjoint : joint (some p) = [.and] := by simp [joint, operandEnds, hp]
      rw [hjoint, List.singleton_append, pieces_cons rfl, pieces_cons hsilent,
        piece_of_endsOperand hp ht, List.append_assoc]
  | false =>
      have hjoint : joint (some p) = [] := by simp [joint, operandEnds, hp]
      rw [hjoint, List.nil_append, pieces_cons hsilent]

theorem isSilent_phrase_of_solid {w : Text} (h : w.Solid) : isSilent (.phrase w) = false := by
  simp [isSilent, Text.words_of_solid h]

/-- A word of a phrase where it stands bare. -/
theorem piece_phrase_of_solid {w : Text} (h : w.Solid) {p : Option Token}
    (hp : standsBare p = true) : piece p (.phrase w) = operandLead p ++ quoted w := by
  rw [piece_phrase, hp, Text.words_of_solid h]
  rfl

/-- The words of a phrase, written out behind an open parenthesis or a distance. -/
theorem pieces_chained {ws : List Text} (hws : ∀ w ∈ ws, w.Solid) (hne : ws ≠ []) {p : Token}
    (hp : standsBare (some p) = true) (ts : List Token) :
    pieces (some p) (chained ws ++ ts) =
      operandLead (some p) ++ List.intercalate " <-> ".toList (ws.map quoted) ++
        pieces (some .closeParen) ts := by
  induction ws generalizing p with
  | nil => exact absurd rfl hne
  | cons w ws ih =>
      obtain ⟨hw, hrest⟩ := List.forall_mem_cons.mp hws
      have hsilent := isSilent_phrase_of_solid hw
      cases ws with
      | nil =>
          have hclose : Alike (some (.phrase w)) (some .closeParen) := alike_of_endsOperand rfl rfl
          rw [chained, List.singleton_append, pieces_cons hsilent, piece_phrase_of_solid hw hp,
            pieces_congr hclose, List.map_singleton, List.intercalate_singleton]
      | cons w' ws =>
          have harrow : piece (some (.phrase w)) (.around 1) = " <->".toList := rfl
          have hnext := ih hrest (by simp) (p := .around 1) rfl
          have hlead : operandLead (some (.around 1)) = [' '] := rfl
          rw [chained, List.cons_append, List.cons_append, pieces_cons hsilent,
            piece_phrase_of_solid hw hp, pieces_cons rfl, harrow, hnext, hlead]
          simp [List.intercalate_cons_cons]

/-- A phrase writes what it stands for. -/
theorem pieces_phraseTokens {ws : List Text} (hws : ∀ w ∈ ws, w.Solid) (hne : ws ≠ []) (p : Token)
    (ts : List Token) :
    pieces (some p) (joint (some p) ++ phraseTokens ws (standsBare (some p)) ++ ts) =
      operandLead (some p) ++ phraseText ws (standsBare (some p)) ++
        pieces (some .closeParen) ts := by
  by_cases hbare : (∃ w, ws = [w]) ∧ standsBare (some p) = true
  · obtain ⟨⟨w, rfl⟩, hp⟩ := hbare
    have hw := hws w List.mem_cons_self
    have hjoint : joint (some p) = [] := by cases p <;> first | rfl | cases hp
    have hclose : Alike (some (.phrase w)) (some .closeParen) := alike_of_endsOperand rfl rfl
    rw [hjoint, hp, phraseTokens, phraseText, List.nil_append, List.singleton_append,
      pieces_cons (isSilent_phrase_of_solid hw), piece_phrase_of_solid hw hp, pieces_congr hclose]
  · have htokens : phraseTokens ws (standsBare (some p)) =
        .openParen :: (chained ws ++ [.closeParen]) := by
      unfold phraseTokens
      split
      · next w hp => exact absurd ⟨⟨w, rfl⟩, hp⟩ hbare
      · simp
    have htext : phraseText ws (standsBare (some p)) =
        ['('] ++ List.intercalate " <-> ".toList (ws.map quoted) ++ [')'] := by
      unfold phraseText
      split
      · next w hp => exact absurd ⟨⟨w, rfl⟩, hp⟩ hbare
      · rfl
    have hclose : piece (some .closeParen) .closeParen = [')'] := rfl
    have hopen : operandLead (some .openParen) = [] := rfl
    rw [htokens, htext, List.append_assoc, List.cons_append, List.append_assoc,
      pieces_joint rfl rfl, pieces_chained hws hne rfl, List.singleton_append, pieces_cons rfl,
      hclose, hopen, piece_openParen]
    simp

/-- A connective behind another one stands for nothing and writes nothing, and what follows is
separated alike. -/
theorem pieces_expand_connective {t : Token} (ht : t.isConnective = true) (p : Token)
    (ts : List Token) :
    pieces (some p) (expand (some p) t ++ ts) = piece (some p) t ++ pieces (some t) ts := by
  by_cases hp : connects (some p) = true
  · have hexpand : expand (some p) t = [] := by cases t <;> cases ht <;> exact if_pos hp
    have hpiece : piece (some p) t = [] := by cases t <;> cases ht <;> exact if_pos hp
    have halike : Alike (some p) (some t) := alike_of_isConnective hp ht
    rw [hexpand, hpiece, List.nil_append, List.nil_append, pieces_congr halike]
  · have hexpand : expand (some p) t = [t] := by cases t <;> cases ht <;> exact if_neg hp
    have hsilent : isSilent t = false := by cases t <;> cases ht <;> rfl
    rw [hexpand, List.singleton_append, pieces_cons hsilent]

/-- **What a token stands for writes what the token writes,** behind every previous token. -/
theorem pieces_expand {t : Token} (hsilent : isSilent t = false) (p : Token) (ts : List Token) :
    pieces (some p) (expand (some p) t ++ ts) = piece (some p) t ++ pieces (some t) ts := by
  cases t with
  | word | minus | openParen =>
      rw [expand, List.append_assoc]
      exact pieces_joint rfl rfl ts
  | phrase t =>
      have hne : t.words ≠ [] := by simpa [isSilent] using hsilent
      -- written out, the phrase ends with a parenthesis or a word: both end an operand
      have hclose : Alike (some (.phrase t)) (some .closeParen) := alike_of_endsOperand rfl rfl
      rw [expand, piece_phrase, pieces_congr hclose]
      exact pieces_phraseTokens (fun w hw => Text.solid_of_mem_words hw) hne p ts
  | and | or => exact pieces_expand_connective rfl p ts
  | around | closeParen => exact pieces_cons rfl _ _

/-- Behind any token, desugaring changes nothing about the text. -/
theorem pieces_desugar (p : Token) (ts : List Token) :
    pieces (some p) (desugar (some p) ts) = pieces (some p) ts := by
  induction ts generalizing p with
  | nil => rfl
  | cons t ts ih =>
      rw [desugar]
      cases hsilent : isSilent t with
      | true => rw [if_pos rfl, ih, pieces_cons_silent hsilent]
      | false => rw [if_neg Bool.false_ne_true, pieces_expand hsilent, ih, pieces_cons hsilent]

/-! ## The round trip -/

theorem readable_solid {ts : List Token} (h : ∀ t ∈ ts, Readable t) (w : Text)
    (hw : .word w ∈ ts) : w.Solid := (h (.word w) hw).1.solid

/-- The rendered text of readable tokens spells the desugared tokens. -/
theorem spells_desugar_render {ts : List Token} (h : ∀ t ∈ ts, Readable t) :
    Spells (desugar none ts) (render ts) := by
  rw [render_eq_trimStart (readable_solid h), Scan.spells_trimStart, desugar_none]
  exact spells_pieces h (some .minus)

/-- Desugaring changes nothing about the rendered text. -/
theorem render_desugar {ts : List Token} (h : ∀ t ∈ ts, Readable t) :
    render (desugar none ts) = render ts := by
  have hspells := spells_desugar_render h
  rw [render_eq_trimStart (readable_solid hspells.readable), render_eq_trimStart (readable_solid h),
    desugar_none, pieces_desugar]

/-- **Rendered text is a fixed point.**  The text rendered from any search string is a search string
itself, and rendering its tokens yields the same text again. -/
theorem ofTokens_tokenize_stripMarker {x : Text} {tokens : List Token}
    (h : Token.tokenize x = .ok tokens) :
    ∃ again, Token.tokenize (stripMarker (ofTokens tokens)) = .ok again ∧
      ofTokens again = ofTokens tokens := by
  have hread : ∀ t ∈ tokens, Readable t :=
    ((Scan.run_eq_ok_iff x 0 tokens).mp (Scan.tokenize_eq_ok.mp h)).readable
  refine ⟨desugar none tokens, ?_, ?_⟩
  · rw [ofTokens, stripMarker_marker_append, Scan.tokenize_eq_ok, Scan.run_eq_ok_iff]
    exact spells_desugar_render hread
  · rw [ofTokens, ofTokens, render_desugar hread]

/-- A search string with a keyword before a group, an empty phrase, connectives in a row, and a
quote and a parenthesis that are never closed. -/
theorem ofTokens_tokenize_stripMarker_unbalanced :
    Token.tokenize "AROUND (- \"\" a \"b  c\" OR & <7> \"d".toList =
        .ok [.word "AROUND".toList, .openParen, .minus, .phrase [], .word ['a'],
          .phrase "b c".toList, .or, .and, .around 7, .phrase ['d']] ∧
      ∃ again, Token.tokenize (stripMarker (ofTokens [.word "AROUND".toList, .openParen, .minus,
          .phrase [], .word ['a'], .phrase "b c".toList, .or, .and, .around 7, .phrase ['d']])) =
          .ok again ∧
        ofTokens again = ofTokens [.word "AROUND".toList, .openParen, .minus, .phrase [],
          .word ['a'], .phrase "b c".toList, .or, .and, .around 7, .phrase ['d']] :=
  ⟨rfl, ofTokens_tokenize_stripMarker
    (x := "AROUND (- \"\" a \"b  c\" OR & <7> \"d".toList) rfl⟩

end FullTextSearch.Query
