/-
# `FullTextSearch.Proofs.Concatenation` — search strings put together.

A separator is a text that ends every word in front of it and is read on its own, wherever it
stands: blanks, a closed quote, a connective between blanks.  Behind a search string that leaves no
quote open, a separator brings the scanner back to where it started, so that what follows is read as
if nothing stood in front of it; only the offset of a flaw moves.

Three facts make this up.  A run that starts further behind has the same tokens and the same flaw,
moved by the distance (`run_add`).  Inside a quote the quotes passed so far are odd in number and
elsewhere they are even (`openQuotes_of_advance`), so a search string with an even number ends in
open text.  And there a separator ends the open word (`run_separated`).  The main statement is
`tokenize_separated`.
-/
import FullTextSearch.Proofs.Refusal

namespace FullTextSearch.Scan

open Grammar

/-! ## Runs that start elsewhere -/

/-- The flaw of the same text further behind. -/
def Flaw.shift (d : Nat) : Flaw → Flaw
  | .misplaced offset => .misplaced (d + offset)
  | .oversized digits => .oversized digits

/-- A result whose flaw is that of the same text further behind. -/
def shifted {α : Type} (d : Nat) : Except Flaw α → Except Flaw α
  | .ok a => .ok a
  | .error flaw => .error (flaw.shift d)

theorem shifted_map {α β : Type} (d : Nat) (r : Except Flaw α) (f : α → β) :
    shifted d (r.map f) = (shifted d r).map f := by
  cases r <;> rfl

theorem ofDistance_add (d : Nat) (bracket : Bracket) (content : Text) (offset : Nat) :
    ofDistance bracket content (d + offset) = shifted d (ofDistance bracket content offset) := by
  unfold ofDistance
  split
  · rfl
  · split
    · split <;> rfl
    · rfl

theorem stepText_add (d : Nat) (word : Text) (offset : Nat) (c : Char) :
    stepText word (d + offset) c = shifted d (stepText word offset c) := by
  unfold stepText
  split
  case h_7 | h_10 => split <;> rfl
  all_goals rfl

theorem stepDistance_add (d : Nat) (bracket : Bracket) (content : Text) (offset : Nat) (c : Char) :
    stepDistance bracket content (d + offset) c =
      shifted d (stepDistance bracket content offset c) := by
  unfold stepDistance
  split
  · rw [ofDistance_add, shifted_map]
  · split
    · rfl
    · split <;> rfl

/-- A step does not look at the offset, it only reports it. -/
theorem step_add (d offset : Nat) (c : Char) (mode : Mode) :
    step (d + offset) c mode = shifted d (step offset c mode) := by
  cases mode with
  | text word => exact stepText_add d word offset c
  | quote content => rfl
  | distance bracket content => exact stepDistance_add d bracket content offset c

/-- **A run further behind** has the same tokens and the same flaw, moved by the distance. -/
theorem run_add (d offset : Nat) (x : Text) (mode : Mode) :
    run (d + offset) x mode = shifted d (run offset x mode) := by
  induction x generalizing offset mode with
  | nil =>
      rw [run_nil, run_nil]
      cases mode <;> rfl
  | cons c x ih =>
      rw [run_cons, run_cons, step_add]
      cases step offset c mode with
      | error flaw => rfl
      | ok now =>
          obtain ⟨done, next⟩ := now
          show (run (d + offset + 1) x next).map (done ++ ·) =
            shifted d ((run (offset + 1) x next).map (done ++ ·))
          rw [Nat.add_assoc, ih, shifted_map]

/-! ## Open quotes -/

/-- The number of quotes that are open in a mode. -/
def openQuotes : Mode → Nat
  | .quote _ => 1
  | .text _ | .distance _ _ => 0

theorem openQuotes_lt_two (mode : Mode) : openQuotes mode < 2 := by
  cases mode <;> simp [openQuotes]

/-- A quote opens one or closes the open one. -/
theorem openQuotes_of_step_quote {mode next : Mode} {offset : Nat} {done : List Token}
    (h : step offset '"' mode = .ok (done, next)) : openQuotes mode + openQuotes next = 1 := by
  cases mode with
  | text word =>
      cases h
      rfl
  | quote content =>
      cases h
      rfl
  | distance bracket content =>
      -- no distance admits a quote
      cases bracket <;> cases h

/-- Nothing but a quote opens or closes one. -/
theorem openQuotes_of_step_of_ne {mode next : Mode} {offset : Nat} {c : Char} {done : List Token}
    (hc : c ≠ '"') (h : step offset c mode = .ok (done, next)) :
    openQuotes next = openQuotes mode := by
  cases mode with
  | text word =>
      rcases mode_of_stepText h with rfl | rfl | ⟨rfl, -⟩ | ⟨-, rfl⟩ | ⟨-, -, rfl⟩
      · rfl
      · rfl
      · exact absurd rfl hc
      · rfl
      · rfl
  | quote content =>
      rw [step, stepQuote, if_neg hc] at h
      cases h
      rfl
  | distance bracket content =>
      rcases mode_of_stepDistance h with rfl | rfl
      · rfl
      · rfl

/-- **A run opens and closes quotes in turn.** -/
theorem openQuotes_of_advance {x : Text} {mode last : Mode} {offset : Nat} {done : List Token}
    (h : advance offset x mode = .ok (done, last)) :
    openQuotes last = (openQuotes mode + x.count '"') % 2 := by
  induction x generalizing offset mode done with
  | nil =>
      cases h
      exact (Nat.mod_eq_of_lt (openQuotes_lt_two _)).symm
  | cons c x ih =>
      obtain ⟨_, next, _, hstep, hrest, -⟩ := exists_of_advance_append (s := [c]) h
      rw [advance_singleton] at hstep
      have hlast := ih hrest
      by_cases hc : c = '"'
      · subst hc
        have hnow := openQuotes_of_step_quote hstep
        rw [hlast, List.count_cons_self]
        omega
      · have hnow := openQuotes_of_step_of_ne hc hstep
        rw [hlast, List.count_cons_of_ne hc, hnow]

/-- A search string with an even number of quotes ends in open text. -/
theorem exists_advance_of_tokenize {p : Text} {before : List Token}
    (hp : Token.tokenize p = .ok before) (heven : p.count '"' % 2 = 0) :
    ∃ done word, advance 0 p (.text []) = .ok (done, .text word) ∧ before = done ++ flush word := by
  have hrun := tokenize_eq_ok.mp hp
  cases hpassed : advance 0 p (.text []) with
  | error flaw =>
      rw [run, hpassed] at hrun
      cases hrun
  | ok now =>
      obtain ⟨done, last⟩ := now
      have hquotes := openQuotes_of_advance hpassed
      rw [run, hpassed] at hrun
      cases last with
      | text word =>
          cases hrun
          exact ⟨done, word, rfl, rfl⟩
      | quote content => simp [openQuotes, heven] at hquotes
      | distance bracket content => cases hrun

/-- There, a code point that ends every word ends the open one, and a run of its own begins. -/
theorem run_behind {p : Text} {before : List Token} (hp : Token.tokenize p = .ok before)
    (heven : p.count '"' % 2 = 0) {c : Char} (hc : isWordChar c = false) (hparen : c ≠ '(')
    (rest : Text) :
    run 0 (p ++ c :: rest) (.text []) =
      (run p.length (c :: rest) (.text [])).map (before ++ ·) := by
  obtain ⟨done, word, hpassed, rfl⟩ := exists_advance_of_tokenize hp heven
  have hword : ∀ d ∈ (c :: rest).head?,
      isWordChar d = false ∧ (d = '(' → word.capitals ≠ "AROUND".toList) := by
    intro d hd
    cases hd
    exact ⟨hc, fun h => absurd h hparen⟩
  rw [run_append hpassed, run_text_of_parted hword, Nat.zero_add]
  cases run p.length (c :: rest) (.text []) with
  | error flaw => rfl
  | ok after => simp [Except.map]

/-! ## Separators -/

/-- A text that ends every word in front of it and is read on its own, from open text to open text
and with the same tokens at every offset. -/
structure Separates (separator : Text) (tokens : List Token) : Prop where
  ends : ∃ c rest, separator = c :: rest ∧ isWordChar c = false ∧ c ≠ '('
  passed : ∀ offset, advance offset separator (.text []) = .ok (tokens, .text [])

/-- A blank ends every word. -/
theorem separates_of_blank {c : Char} {rest : Text} {tokens : List Token} (hc : isBlank c = true)
    (hpassed : ∀ offset, advance offset (c :: rest) (.text []) = .ok (tokens, .text [])) :
    Separates (c :: rest) tokens where
  ends := by
    refine ⟨c, rest, rfl, not_isWordChar_of_blank hc, ?_⟩
    rintro rfl
    exact absurd hc (by decide)
  passed := hpassed

theorem separates_blanks {gap : Text} (hne : gap ≠ []) (hgap : gap.isAllBlank = true) :
    Separates gap [] := by
  obtain ⟨c, rest, rfl⟩ := List.exists_cons_of_ne_nil hne
  exact separates_of_blank (List.all_eq_true.mp hgap c List.mem_cons_self) (advance_blanks hgap)

theorem separates_quote {s : Text} (hs : '"' ∉ s) :
    Separates (['"'] ++ s ++ ['"']) [.phrase s.collapse] where
  ends := ⟨'"', s ++ ['"'], rfl, by decide, by decide⟩
  passed := by
    have hbare : ¬ IsBareword (['"'] ++ s ++ ['"']) :=
      not_isBareword_of_mem (c := '"') (by simp) rfl
    exact advance_lexeme (.phrase hs) hbare

/-- **Behind a separator the scanner starts again.** -/
theorem run_separated {p separator : Text} {before between : List Token}
    (hp : Token.tokenize p = .ok before) (heven : p.count '"' % 2 = 0)
    (h : Separates separator between) (q : Text) :
    run 0 (p ++ separator ++ q) (.text []) =
      (shifted (p ++ separator).length (run 0 q (.text []))).map (before ++ between ++ ·) := by
  obtain ⟨c, rest, rfl, hc, hparen⟩ := h.ends
  rw [List.append_assoc, List.cons_append, run_behind hp heven hc hparen, ← List.cons_append,
    run_append (h.passed _), List.length_append, ← run_add, Nat.add_zero]
  cases run (p.length + (c :: rest).length) q (.text []) with
  | error flaw => rfl
  | ok after => simp [Except.map]

/-! ## Search strings behind a front -/

/-- **A search string keeps its reading behind a front.**  Its tokens stand behind those of the
front, and what it is refused for is reported of the whole text, further behind by the length of the
front. -/
structure ReadsBehind (front : Text) (before : List Token) (q : Text) : Prop where
  answer : ∀ after, Token.tokenize q = .ok after →
    Token.tokenize (front ++ q) = .ok (before ++ after)
  malformed : ∀ named location, Token.tokenize q = .error (.malformedQuery named location) →
    Token.tokenize (front ++ q) =
      .error (.malformedQuery (front ++ q) (front.length + location))
  oversized : ∀ digits, Token.tokenize q = .error (.oversizedNumber digits) →
    Token.tokenize (front ++ q) = .error (.oversizedNumber digits)

/-- Behind a separator everything keeps its reading. -/
theorem readsBehind_of_separates {p separator : Text} {before between : List Token}
    (hp : Token.tokenize p = .ok before) (heven : p.count '"' % 2 = 0)
    (h : Separates separator between) (q : Text) :
    ReadsBehind (p ++ separator) (before ++ between) q := by
  have hrun := run_separated hp heven h q
  refine ⟨?_, ?_, ?_⟩
  · intro after hq
    rw [tokenize_eq_ok.mp hq] at hrun
    exact tokenize_eq_ok.mpr hrun
  · intro named location hq
    rw [(tokenize_eq_malformed_iff.mp hq).2] at hrun
    exact tokenize_eq_malformed_iff.mpr ⟨rfl, hrun⟩
  · intro digits hq
    rw [tokenize_eq_oversizedNumber_iff.mp hq] at hrun
    exact tokenize_eq_oversizedNumber_iff.mpr hrun

/-- A quote that the end of the text closes is the last phrase. -/
theorem tokenize_unclosed {p s : Text} {before : List Token}
    (hp : Token.tokenize p = .ok before) (heven : p.count '"' % 2 = 0) (hs : '"' ∉ s) :
    Token.tokenize (p ++ (['"'] ++ s)) = .ok (before ++ [.phrase s.collapse]) := by
  have hquote : run p.length ('"' :: s) (.text []) = .ok [.phrase s.collapse] := by
    rw [← List.singleton_append, run, advance_openQuote hs]
    rfl
  rw [tokenize_eq_ok, List.singleton_append, run_behind hp heven (by decide) (by decide), hquote]
  rfl

/-- **Scanning is compositional at blanks and at quotes.**  Behind a search string with an even
number of quotes, any blanks and any closed quote leave the reading of what follows as it is, be it
tokens or a flaw; a quote that is not closed is one more phrase. -/
theorem tokenize_separated {p : Text} {before : List Token} (hp : Token.tokenize p = .ok before)
    (heven : p.count '"' % 2 = 0) {gap : Text} (hne : gap ≠ []) (hgap : gap.isAllBlank = true)
    {s : Text} (hs : '"' ∉ s) (q : Text) :
    ReadsBehind (p ++ gap) before q ∧
      ReadsBehind (p ++ (['"'] ++ s ++ ['"'])) (before ++ [.phrase s.collapse]) q ∧
      Token.tokenize (p ++ (['"'] ++ s)) = .ok (before ++ [.phrase s.collapse]) := by
  have hblanks := readsBehind_of_separates hp heven (separates_blanks hne hgap) q
  rw [List.append_nil] at hblanks
  exact ⟨hblanks, readsBehind_of_separates hp heven (separates_quote hs) q,
    tokenize_unclosed hp heven hs⟩

/-- The keyword of a distance stays a word in front of a separator, and a flaw behind one is found
where it stands. -/
theorem tokenize_separated_around :
    Token.tokenize "\"a\" AROUND".toList = .ok [.phrase ['a'], .word "AROUND".toList] ∧
      Token.tokenize "(2) <x>".toList = .error (.malformedQuery "(2) <x>".toList 5) ∧
      ReadsBehind ("\"a\" AROUND".toList ++ ['\t']) [.phrase ['a'], .word "AROUND".toList]
        "(2) <x>".toList ∧
      ReadsBehind ("\"a\" AROUND".toList ++ (['"'] ++ " b  c ".toList ++ ['"']))
        ([.phrase ['a'], .word "AROUND".toList] ++ [.phrase "b c".toList]) "(2) <x>".toList ∧
      Token.tokenize "\"a\" AROUND\t(2) <x>".toList =
        .error (.malformedQuery "\"a\" AROUND\t(2) <x>".toList 16) ∧
      Token.tokenize "\"a\" AROUND\" b  c ".toList =
        .ok [.phrase ['a'], .word "AROUND".toList, .phrase "b c".toList] := by
  have hp : Token.tokenize "\"a\" AROUND".toList =
      .ok [.phrase ['a'], .word "AROUND".toList] := rfl
  have hq : Token.tokenize "(2) <x>".toList = .error (.malformedQuery "(2) <x>".toList 5) := rfl
  have hgap : ['\t'] ≠ [] := by decide
  obtain ⟨hblanks, hclosed, hunclosed⟩ := tokenize_separated hp (by decide) hgap (by decide)
    (s := " b  c ".toList) (by decide) "(2) <x>".toList
  exact ⟨hp, hq, hblanks, hclosed, hblanks.malformed _ _ hq, hunclosed⟩

end FullTextSearch.Scan
