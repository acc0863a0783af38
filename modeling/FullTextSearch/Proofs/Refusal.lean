/-
# `FullTextSearch.Proofs.Refusal` — what a search string is refused for.

A caller handles a bad search string by the fault that names it, `malformedQuery`.  One search
string escapes that: a distance of more digits than an integer may have is refused as a number, and
only when its bracket closes.  `HoldsOversized` says so without the scanner: the distance is closed,
and a distance of one digit in its place would end a search string.

The main statement is `handled_unless_oversized`: for the scanner, for a compilation and for a whole
search without options in the built-in settings, this is the only escape.  `run_eq_error_iff` finds
the step at which a run stops, and `openedBy_of_advance` carries through a run what the open distance
says about the text that was passed.
-/
import FullTextSearch.Proofs.Scanning
import FullTextSearch.Proofs.SharedCompilation

namespace FullTextSearch

namespace Scan

open Grammar

/-! ## Runs that stop -/

/-- A run has a flaw exactly if one of its steps or its end has it. -/
theorem run_eq_error_iff {offset : Nat} {x : Text} {mode : Mode} {flaw : Flaw} :
    run offset x mode = .error flaw ↔
      (∃ passed c rest done next, x = passed ++ c :: rest ∧
        advance offset passed mode = .ok (done, next) ∧
        step (offset + passed.length) c next = .error flaw) ∨
      ∃ done last, advance offset x mode = .ok (done, last) ∧
        finish (offset + x.length) last = .error flaw := by
  constructor
  · intro h
    induction x generalizing offset mode with
    | nil =>
        rw [run_nil] at h
        exact Or.inr ⟨[], mode, rfl, h⟩
    | cons c x ih =>
        rw [run_cons] at h
        cases hstep : step offset c mode with
        | error now =>
            rw [hstep] at h
            cases h
            exact Or.inl ⟨[], c, x, [], mode, rfl, rfl, hstep⟩
        | ok now =>
            obtain ⟨done, next⟩ := now
            simp only [hstep] at h
            -- the flaw is one of the run behind this step
            have hrest : run (offset + 1) x next = .error flaw := eq_error_of_map h
            have hlength : ∀ k : Nat, offset + 1 + k = offset + (k + 1) := by
              intro k
              omega
            rcases ih hrest with ⟨passed, d, rest, more, last, rfl, hpassed, hflaw⟩ |
              ⟨more, last, hpassed, hflaw⟩
            · refine Or.inl ⟨c :: passed, d, rest, done ++ more, last, rfl, ?_, ?_⟩
              · simp only [advance, hstep, hpassed]
              · rwa [List.length_cons, ← hlength]
            · refine Or.inr ⟨done ++ more, last, ?_, ?_⟩
              · simp only [advance, hstep, hpassed]
              · rwa [List.length_cons, ← hlength]
  · rintro (⟨passed, c, rest, done, next, rfl, hpassed, hflaw⟩ | ⟨done, last, hpassed, hflaw⟩)
    · rw [run_append hpassed, run_cons, hflaw]
      rfl
    · rw [run, hpassed]
      simp only [hflaw]
      rfl

/-- A distance is oversized by the number of its digits alone. -/
theorem ofDistance_eq_oversized_iff {bracket : Bracket} {content : Text} {offset n : Nat} :
    ofDistance bracket content offset = .error (.oversized n) ↔
      content.all Char.isDigit = true ∧ Numeral.maxDigits < content.length ∧
        content.length = n := by
  unfold ofDistance
  split
  · next hdash =>
      -- the short form is no run of digits
      simp only [reduceCtorEq, false_iff]
      intro h
      exact ne_dash_of_digits h.1 hdash.1
  · split
    · next hdigits =>
        split
        · next hshort =>
            simp only [reduceCtorEq, false_iff]
            intro h
            exact absurd h.2.1 (Nat.not_lt.mpr hshort)
        · next hlong => simp [hdigits.2, Nat.lt_of_not_le hlong]
    · next hdigits =>
        simp only [Except.error.injEq, reduceCtorEq, false_iff]
        intro h
        refine hdigits ⟨?_, h.1⟩
        exact List.ne_nil_of_length_pos (Nat.lt_of_le_of_lt (Nat.zero_le _) h.2.1)

/-- In open text nothing but a closing angle bracket is refused. -/
theorem stepText_eq_error_iff {word : Text} {offset : Nat} {c : Char} {flaw : Flaw} :
    stepText word offset c = .error flaw ↔ c = '>' ∧ flaw = .misplaced offset := by
  constructor
  · intro h
    unfold stepText at h
    split at h
    case h_9 =>
      cases h
      exact ⟨rfl, rfl⟩
    case h_7 | h_10 => split at h <;> cases h
    all_goals cases h
  · rintro ⟨rfl, rfl⟩
    rfl

/-- A step finds an oversized number only where it closes a distance. -/
theorem step_eq_oversized_iff {offset n : Nat} {c : Char} {mode : Mode} :
    step offset c mode = .error (.oversized n) ↔
      ∃ bracket digits, mode = .distance bracket digits ∧ c = bracket.closer ∧
        digits.all Char.isDigit = true ∧ Numeral.maxDigits < digits.length ∧
        digits.length = n := by
  cases mode with
  | text word =>
      simp only [step, reduceCtorEq, false_and, exists_false, iff_false]
      intro h
      obtain ⟨-, hflaw⟩ := stepText_eq_error_iff.mp h
      cases hflaw
  | quote content => simp [step]
  | distance bracket content =>
      have hclose : (ofDistance bracket content offset).map
            (fun token => ([token], Mode.text [])) = .error (.oversized n) ↔
          ofDistance bracket content offset = .error (.oversized n) := by
        cases ofDistance bracket content offset <;> simp [Except.map]
      simp only [step, stepDistance]
      split
      · next hc =>
          rw [hclose, ofDistance_eq_oversized_iff]
          constructor
          · intro h
            exact ⟨bracket, content, rfl, hc, h⟩
          · rintro ⟨_, _, hmode, -, h⟩
            cases hmode
            exact h
      · next hc =>
          constructor
          · intro h
            split at h
            · cases h
            · split at h <;> cases h
          · rintro ⟨_, _, hmode, hcloser, -⟩
            cases hmode
            exact absurd hcloser hc

/-! ## Open distances -/

/-- What opens a distance: an angle bracket, or a parenthesis directly behind the keyword. -/
inductive Opening : Bracket → Text → Prop
  | angle : Opening .angle ['<']
  | paren {w : Text} (keyword : w.capitals = "AROUND".toList) : Opening .paren (w ++ ['('])

/-- What a mode says about the text that was passed: the open word ends that text, and the content
of an open distance stands behind the opening of the distance. -/
def OpenedBy (passed : Text) : Mode → Prop
  | .text word => word <:+ passed
  | .quote _ => True
  | .distance bracket content =>
    ∃ before opening done, Opening bracket opening ∧ passed = before ++ opening ++ content ∧
      advance 0 (before ++ opening) (.text []) = .ok (done, .distance bracket [])

/-- The text after one more code point. -/
theorem advance_concat {offset : Nat} {passed : Text} {c : Char} {mode next last : Mode}
    {done more : List Token} (hpassed : advance offset passed mode = .ok (done, next))
    (hstep : step (offset + passed.length) c next = .ok (more, last)) :
    advance offset (passed ++ [c]) mode = .ok (done ++ more, last) := by
  refine advance_append_ok hpassed ?_
  rw [advance_singleton, hstep]

/-- The step over the last code point of a text. -/
theorem exists_step_of_advance_concat {offset : Nat} {passed : Text} {c : Char} {mode last : Mode}
    {done : List Token} (h : advance offset (passed ++ [c]) mode = .ok (done, last)) :
    ∃ next more, step (offset + passed.length) c next = .ok (more, last) := by
  obtain ⟨_, next, more, -, hstep, -⟩ := exists_of_advance_append h
  rw [advance_singleton] at hstep
  exact ⟨next, more, hstep⟩

/-- A step in open text ends the open word, lets it grow, or opens a quote or a distance. -/
theorem mode_of_stepText {word : Text} {offset : Nat} {c : Char} {done : List Token} {next : Mode}
    (h : stepText word offset c = .ok (done, next)) :
    next = .text [] ∨ next = .text (word ++ [c]) ∨ (c = '"' ∧ next = .quote []) ∨
      (c = '<' ∧ next = .distance .angle []) ∨
      (c = '(' ∧ word.capitals = "AROUND".toList ∧ next = .distance .paren []) := by
  unfold stepText at h
  split at h
  case h_7 =>
    split at h
    · next hkeyword =>
        cases h
        exact Or.inr (Or.inr (Or.inr (Or.inr ⟨rfl, hkeyword, rfl⟩)))
    · cases h
      exact Or.inl rfl
  case h_10 =>
    split at h
    · cases h
      exact Or.inl rfl
    · cases h
      exact Or.inr (Or.inl rfl)
  case h_1 =>
    cases h
    exact Or.inr (Or.inr (Or.inl ⟨rfl, rfl⟩))
  case h_8 =>
    cases h
    exact Or.inr (Or.inr (Or.inr (Or.inl ⟨rfl, rfl⟩)))
  case h_9 => cases h
  all_goals
    cases h
    exact Or.inl rfl

/-- A step in a distance closes it or keeps its code point. -/
theorem mode_of_stepDistance {bracket : Bracket} {content : Text} {offset : Nat} {c : Char}
    {done : List Token} {next : Mode}
    (h : stepDistance bracket content offset c = .ok (done, next)) :
    next = .text [] ∨ next = .distance bracket (content ++ [c]) := by
  unfold stepDistance at h
  split at h
  · cases hread : ofDistance bracket content offset with
    | error flaw =>
        rw [hread] at h
        cases h
    | ok token =>
        rw [hread] at h
        cases h
        exact Or.inl rfl
  · split at h
    · cases h
      exact Or.inr rfl
    · split at h
      · next hdash =>
          cases h
          obtain ⟨rfl, rfl, -⟩ := hdash
          exact Or.inr rfl
      · cases h

/-- **One step keeps what a mode says.** -/
theorem openedBy_of_step {passed : Text} {mode next : Mode} {c : Char} {done more : List Token}
    (hpassed : advance 0 passed (.text []) = .ok (done, mode)) (h : OpenedBy passed mode)
    (hstep : step passed.length c mode = .ok (more, next)) : OpenedBy (passed ++ [c]) next := by
  have hempty : OpenedBy (passed ++ [c]) (.text []) := List.nil_suffix
  cases mode with
  | text word =>
      obtain ⟨before, rfl⟩ := h
      rcases mode_of_stepText hstep with
        rfl | rfl | ⟨-, rfl⟩ | ⟨rfl, rfl⟩ | ⟨rfl, hkeyword, rfl⟩
      · exact hempty
      · exact ⟨before, (List.append_assoc before word [c]).symm⟩
      · trivial
      · have hopen := advance_concat hpassed (by rwa [Nat.zero_add])
        exact ⟨before ++ word, ['<'], _, .angle, by simp, hopen⟩
      · have hopen := advance_concat hpassed (by rwa [Nat.zero_add])
        rw [List.append_assoc] at hopen
        exact ⟨before, word ++ ['('], _, .paren hkeyword, by simp, hopen⟩
  | quote content =>
      simp only [step, stepQuote] at hstep
      split at hstep
      · cases hstep
        exact hempty
      · cases hstep
        trivial
  | distance bracket content =>
      rcases mode_of_stepDistance hstep with rfl | rfl
      · exact hempty
      · obtain ⟨before, opening, opened, hopening, rfl, hopen⟩ := h
        exact ⟨before, opening, opened, hopening, by simp, hopen⟩

/-- **A run keeps what a mode says.** -/
theorem openedBy_of_advance {passed x : Text} {mode next : Mode} {done more : List Token}
    (hpassed : advance 0 passed (.text []) = .ok (done, mode)) (h : OpenedBy passed mode)
    (hx : advance passed.length x mode = .ok (more, next)) : OpenedBy (passed ++ x) next := by
  induction x generalizing passed mode done more with
  | nil =>
      cases hx
      rwa [List.append_nil]
  | cons c x ih =>
      obtain ⟨_, after, _, hstep, hrest, -⟩ := exists_of_advance_append (s := [c]) hx
      rw [advance_singleton] at hstep
      have hnext := advance_concat hpassed (by rwa [Nat.zero_add])
      have hlast := ih hnext (openedBy_of_step hpassed h hstep) (by simpa using hrest)
      rwa [List.append_assoc] at hlast

/-- Behind its opening, a distance of one digit is read. -/
theorem run_short (bracket : Bracket) (offset : Nat) :
    run offset ['1', bracket.closer] (.distance bracket []) = .ok [.around 1] := by
  cases bracket <;> rfl

/-- What a step over the last code point of an opening leaves: an open distance, a quote that was
open before, or open text behind a parenthesis that follows no keyword. -/
theorem mode_of_step_opening {bracket : Bracket} {opening : Text} (h : Opening bracket opening)
    {offset : Nat} {c : Char} (hc : opening.getLast? = some c) {mode next : Mode}
    {done : List Token} (hstep : step offset c mode = .ok (done, next)) :
    next = .distance bracket [] ∨ (∃ content, next = .quote content) ∨
      (bracket = .paren ∧ next = .text []) := by
  have hopens : (c = '<' ∧ bracket = .angle) ∨ (c = '(' ∧ bracket = .paren) := by
    cases h with
    | angle => exact Or.inl ⟨(Option.some.inj hc).symm, rfl⟩
    | paren keyword =>
        rw [List.getLast?_concat] at hc
        exact Or.inr ⟨(Option.some.inj hc).symm, rfl⟩
  cases mode with
  | text word =>
      rcases hopens with ⟨rfl, rfl⟩ | ⟨rfl, rfl⟩
      · cases hstep
        exact Or.inl rfl
      · by_cases hkeyword : word.capitals = "AROUND".toList
        · rw [step, stepText_around hkeyword] at hstep
          cases hstep
          exact Or.inl rfl
        · have hparen : stepText word offset '(' = .ok (flush word ++ [.openParen], .text []) :=
            if_neg hkeyword
          rw [step, hparen] at hstep
          cases hstep
          exact Or.inr (Or.inr ⟨rfl, rfl⟩)
  | quote content =>
      rcases hopens with ⟨rfl, rfl⟩ | ⟨rfl, rfl⟩
      all_goals
        cases hstep
        exact Or.inr (Or.inl ⟨_, rfl⟩)
  | distance other content =>
      -- a distance admits neither of the two
      have hflaw : stepDistance other content offset c = .error (.misplaced offset) := by
        rcases hopens with ⟨rfl, rfl⟩ | ⟨rfl, rfl⟩ <;> cases other <;> rfl
      rw [step, hflaw] at hstep
      cases hstep

/-- If a run over an opening and a short distance ends with that distance, the opening opens it. -/
theorem mode_of_opening {bracket : Bracket} {opening before : Text} (h : Opening bracket opening)
    {done ts : List Token} {mode : Mode} {offset : Nat}
    (hopen : advance 0 (before ++ opening) (.text []) = .ok (done, mode))
    (hrun : (run offset ['1', bracket.closer] mode).map (done ++ ·) = .ok (ts ++ [.around 1])) :
    mode = .distance bracket [] := by
  -- otherwise the last token is a phrase or a parenthesis
  have hlast : ∀ {t : Token} {more : List Token}, run offset ['1', bracket.closer] mode =
      .ok (more ++ [t]) → t = .around 1 := by
    intro t more hmore
    rw [hmore, Except.map, Except.ok.injEq, ← List.append_assoc] at hrun
    exact (List.cons.inj (List.append_inj_right' hrun rfl)).1
  obtain ⟨init, c, rfl⟩ : ∃ init c, opening = init ++ [c] := by
    cases h with
    | angle => exact ⟨[], '<', rfl⟩
    | @paren w keyword => exact ⟨w, '(', rfl⟩
  rw [← List.append_assoc] at hopen
  obtain ⟨_, _, hstep⟩ := exists_step_of_advance_concat hopen
  rcases mode_of_step_opening h List.getLast?_concat hstep with rfl | ⟨content, rfl⟩ | ⟨rfl, rfl⟩
  · rfl
  · have hquote : run offset ['1', bracket.closer] (.quote content) =
        .ok ([] ++ [ofQuote (content ++ ['1'] ++ [bracket.closer])]) := by
      cases bracket <;> rfl
    cases hlast hquote
  · have hword : run offset ['1', Bracket.paren.closer] (.text []) =
        .ok ([.word ['1']] ++ [.closeParen]) := rfl
    cases hlast hword

/-- A text ends in an open distance exactly if a short distance there would be read. -/
theorem exists_advance_opening_iff {bracket : Bracket} {opening : Text}
    (h : Opening bracket opening) (before : Text) :
    (∃ done, advance 0 (before ++ opening) (.text []) = .ok (done, .distance bracket [])) ↔
      ∃ ts, Spells (ts ++ [.around 1]) (before ++ opening ++ ['1', bracket.closer]) := by
  constructor
  · rintro ⟨done, hopen⟩
    refine ⟨done, (run_eq_ok_iff _ 0 _).mp ?_⟩
    rw [run_append hopen, run_short]
    rfl
  · rintro ⟨ts, hspells⟩
    have hrun := (run_eq_ok_iff _ 0 _).mpr hspells
    cases hopen : advance 0 (before ++ opening) (.text []) with
    | error flaw =>
        rw [run, advance_append, hopen] at hrun
        cases hrun
    | ok now =>
        obtain ⟨done, mode⟩ := now
        rw [run_append hopen] at hrun
        obtain rfl := mode_of_opening h hopen hrun
        exact ⟨done, rfl⟩

/-- A run that ends in a distance passed what opens it, and behind that a short distance would be
read. -/
theorem exists_opening_of_advance {x content : Text} {bracket : Bracket} {done : List Token}
    (h : advance 0 x (.text []) = .ok (done, .distance bracket content)) :
    ∃ before opening ts, x = before ++ opening ++ content ∧ Opening bracket opening ∧
      Spells (ts ++ [.around 1]) (before ++ opening ++ ['1', bracket.closer]) := by
  have hstart : OpenedBy [] (.text []) := List.nil_suffix
  have hread : advance 0 [] (.text []) = .ok ([], .text []) := rfl
  obtain ⟨before, opening, opened, hopening, rfl, hopen⟩ := openedBy_of_advance hread hstart h
  obtain ⟨ts, hspells⟩ := (exists_advance_opening_iff hopening before).mp ⟨opened, hopen⟩
  exact ⟨before, opening, ts, rfl, hopening, hspells⟩

/-! ## Oversized distances -/

/-- **A distance of too many digits.**  It is closed, and a distance of one digit in its place would
end a search string. -/
inductive HoldsOversized : Text → Nat → Prop
  | intro {bracket : Bracket} {before opening digits rest : Text} {ts : List Token}
      (opens : Opening bracket opening) (areDigits : digits.all Char.isDigit = true)
      (oversized : Numeral.maxDigits < digits.length)
      (readable : Spells (ts ++ [.around 1]) (before ++ opening ++ ['1', bracket.closer])) :
      HoldsOversized (before ++ opening ++ digits ++ bracket.closer :: rest) digits.length

/-- A run finds an oversized number exactly in the texts that hold an oversized distance. -/
theorem run_eq_oversized_iff {x : Text} {n : Nat} :
    run 0 x (.text []) = .error (.oversized n) ↔ HoldsOversized x n := by
  rw [run_eq_error_iff]
  constructor
  · rintro (⟨passed, c, rest, done, mode, rfl, hpassed, hflaw⟩ | ⟨done, last, -, hflaw⟩)
    · obtain ⟨bracket, digits, rfl, rfl, hdigits, hlong, rfl⟩ := step_eq_oversized_iff.mp hflaw
      obtain ⟨before, opening, ts, rfl, hopening, hspells⟩ := exists_opening_of_advance hpassed
      exact .intro hopening hdigits hlong hspells
    · cases last <;> cases hflaw
  · intro h
    obtain ⟨hopening, hdigits, hlong, hspells⟩ := h
    obtain ⟨done, hopen⟩ := (exists_advance_opening_iff hopening _).mpr ⟨_, hspells⟩
    have hcontent := advance_append_ok hopen (advance_digits hdigits _ [] rfl _)
    exact Or.inl ⟨_, _, _, _, _, rfl, hcontent,
      step_eq_oversized_iff.mpr ⟨_, _, rfl, rfl, hdigits, hlong, rfl⟩⟩

/-- A search string is refused with the fault of the flaw that its run has. -/
theorem tokenize_eq_error_iff {query : Text} {fault : Fault} :
    Token.tokenize query = .error fault ↔
      ∃ flaw, run 0 query (.text []) = .error flaw ∧ flaw.toFault query = fault := by
  rw [Token.tokenize]
  cases run 0 query (.text []) with
  | ok tokens =>
      constructor
      · intro h
        cases h
      · rintro ⟨flaw, h, -⟩
        cases h
  | error flaw =>
      constructor
      · intro h
        exact ⟨flaw, rfl, Except.error.inj h⟩
      · rintro ⟨_, h, rfl⟩
        cases h
        rfl

/-- A search string is malformed where its run has a misplaced code point. -/
theorem tokenize_eq_malformed_iff {x named : Text} {location : Nat} :
    Token.tokenize x = .error (.malformedQuery named location) ↔
      named = x ∧ run 0 x (.text []) = .error (.misplaced location) := by
  rw [tokenize_eq_error_iff]
  constructor
  · rintro ⟨flaw, hrun, hfault⟩
    cases flaw <;> cases hfault
    exact ⟨rfl, hrun⟩
  · rintro ⟨rfl, hrun⟩
    exact ⟨_, hrun, rfl⟩

/-- A search string is refused as a number where its run closes an oversized distance. -/
theorem tokenize_eq_oversizedNumber_iff {x : Text} {n : Nat} :
    Token.tokenize x = .error (.oversizedNumber n) ↔
      run 0 x (.text []) = .error (.oversized n) := by
  rw [tokenize_eq_error_iff]
  constructor
  · rintro ⟨flaw, hrun, hfault⟩
    cases flaw <;> cases hfault
    exact hrun
  · intro hrun
    exact ⟨.oversized n, hrun, rfl⟩

/-- **A search string is refused as a number** exactly if it holds an oversized distance. -/
theorem tokenize_eq_oversized_iff (query : Text) (n : Nat) :
    Token.tokenize query = .error (.oversizedNumber n) ↔ HoldsOversized query n :=
  tokenize_eq_oversizedNumber_iff.trans run_eq_oversized_iff

end Scan

namespace Query

open Scan

/-! ## What a caller handles -/

/-- An answer, or the fault by which a caller handles a bad search string. -/
def Handled {α : Type} (query : Text) (o : Outcome α) : Prop :=
  (∃ a warnings, o = .answer a warnings) ∨ ∃ location, o = .fault (.malformedQuery query location)

/-- Whether a fault is handled depends on nothing but the fault. -/
theorem handled_fault_iff {α : Type} {query : Text} {fault : Fault} :
    Handled query (.fault fault : Outcome α) ↔ ∃ location, fault = .malformedQuery query location := by
  constructor
  · rintro (⟨_, _, h⟩ | ⟨location, h⟩)
    · cases h
    · cases h
      exact ⟨location, rfl⟩
  · rintro ⟨location, rfl⟩
    exact Or.inr ⟨location, rfl⟩

/-- Tokenizing is handled unless a distance is oversized. -/
theorem handled_tokenize_iff (query : Text) :
    Handled query (.ofExcept (Token.tokenize query)) ↔ ¬ ∃ n, HoldsOversized query n := by
  cases hread : Token.tokenize query with
  | ok tokens =>
      have hnone : ¬ ∃ n, HoldsOversized query n := by
        rintro ⟨n, hn⟩
        rw [(tokenize_eq_oversized_iff query n).mpr hn] at hread
        cases hread
      exact iff_of_true (Or.inl ⟨tokens, [], rfl⟩) hnone
  | error fault =>
      obtain ⟨flaw, hrun, rfl⟩ := tokenize_eq_error_iff.mp hread
      cases flaw with
      | misplaced offset =>
          have hnone : ¬ ∃ n, HoldsOversized query n := by
            rintro ⟨n, hn⟩
            rw [run_eq_oversized_iff.mpr hn] at hrun
            cases hrun
          exact iff_of_true (Or.inr ⟨offset, rfl⟩) hnone
      | oversized digits =>
          refine iff_of_false ?_ (not_not_intro ⟨digits, run_eq_oversized_iff.mp hrun⟩)
          intro h
          obtain ⟨location, hlocation⟩ := handled_fault_iff.mp h
          cases hlocation

/-- Compiling tokenizes text without the marker only. -/
theorem handled_compile_iff (query : Text) :
    Handled query (.ofExcept (compile query)) ↔
      isCompiled query = true ∨ ¬ ∃ n, HoldsOversized query n := by
  rw [← handled_tokenize_iff]
  cases hmarker : isCompiled query with
  | true =>
      rw [compile, if_pos hmarker]
      exact iff_of_true (Or.inl ⟨query, [], rfl⟩) (Or.inl rfl)
  | false =>
      rw [compile, if_neg (by simp [hmarker])]
      simp only [Bool.false_eq_true, false_or]
      cases Token.tokenize query with
      | ok tokens => exact iff_of_true (Or.inl ⟨_, [], rfl⟩) (Or.inl ⟨tokens, [], rfl⟩)
      | error fault => exact handled_fault_iff.trans handled_fault_iff.symm

/-- What answers where the query can be compiled, and else fails with the fault of that, is handled
where the compilation is. -/
theorem handled_iff_of_compile {α : Type} {query : Text} {o : Outcome α}
    (hok : ∀ compiled, compile query = .ok compiled → ∃ a warnings, o = .answer a warnings)
    (herror : ∀ fault, compile query = .error fault → o = .fault fault) :
    Handled query o ↔ Handled query (.ofExcept (compile query)) := by
  cases hcompile : compile query with
  | ok compiled => exact iff_of_true (Or.inl (hok compiled hcompile)) (Or.inl ⟨compiled, [], rfl⟩)
  | error fault =>
      rw [herror fault hcompile]
      exact handled_fault_iff.trans handled_fault_iff.symm

/-- Normalizing is handled where compiling is. -/
theorem handled_normalize_iff (query : Text) :
    Handled query (.ofExcept (normalize query)) ↔ Handled query (.ofExcept (compile query)) := by
  refine handled_iff_of_compile ?_ ?_
  · intro compiled hcompile
    rw [normalize_of_compile hcompile]
    exact ⟨_, [], rfl⟩
  · intro fault hcompile
    rw [normalize_of_compile_error hcompile]
    rfl

/-! ## Searches without options -/

/-- **Settings that fail a query text**: their order scores it, and their normalization has too many
digits to write. -/
def Unwritten (settings : Settings) (query : Text) : Prop :=
  ∃ value, normalize query = .ok value ∧ Sql.Scores (Sql.trimmed settings.defaultOrder) value ∧
    ¬ Numeral.Writable settings.defaultNormalization

/-- A search without options wants no headline, so its statement is built unless the settings fail
it. -/
theorem buildable_default_iff {settings : Settings} {document : Option Text} {query compiled : Text}
    (h : compile query = .ok compiled) :
    Search.Buildable settings document .default (stripMarker compiled) ↔
      ¬ Unwritten settings query := by
  rw [Unwritten, normalize_of_compile h]
  constructor
  · rintro ⟨-, -, hwritable⟩ ⟨value, hvalue, hscores, hunwritable⟩
    obtain rfl := Except.ok.inj hvalue
    exact hunwritable (hwritable hscores)
  · intro hnot
    refine ⟨fun hwants => ?_, fun hwants => ?_, fun hscores => ?_⟩
    · cases hwants
    · cases hwants
    · exact by_contra fun hunwritable => hnot ⟨_, rfl, hscores, hunwritable⟩

/-- What fails a search without options beside its query is an integer that cannot be written. -/
theorem statementOf_of_unwritten {settings : Settings} {query compiled : Text}
    (hcompile : compile query = .ok compiled) (h : Unwritten settings query) (lib : Validation)
    (document tsv : Option Text) :
    Search.statementOf lib settings document tsv query .default = .fault .unwritableNumber := by
  obtain ⟨value, hvalue, ⟨hgiven, entry, hentry, hrank⟩, hunwritable⟩ := h
  rw [normalize_of_compile hcompile] at hvalue
  obtain rfl := Except.ok.inj hvalue
  have hcompiled := compile_compile hcompile
  have hnormalization : Rank.normalizationText settings {} = .error .unwritableNumber :=
    if_neg hunwritable
  have hitems : Search.selectItems settings document compiled .default = .ok [] :=
    Search.selectItems_of_not_wants rfl document compiled
  have hordering : Sql.ordering lib settings SearchOptions.default.order.value
      (.rankOptions SearchOptions.default.rank) (some compiled) = .fault .unwritableNumber :=
    Sql.ordering_of_unwritten hcompiled rfl (List.any_eq_true.mpr ⟨entry, hentry, hrank⟩) hgiven
      hnormalization
  simp only [Search.statementOf, hcompile, Sql.predicate_eq_fill (normalize_of_compile hcompiled),
    hitems, hordering, Outcome.liftM_ok, Outcome.answer_bind, Outcome.fault_bind]
  rfl

/-- A search without options is handled where its query is, unless the settings fail it. -/
theorem handled_statement_iff (lib : Validation) (settings : Settings)
    (document tsv : Option Text) (query : Text) :
    Handled query (Search.statement lib settings document tsv query .null) ↔
      Handled query (.ofExcept (compile query)) ∧ ¬ Unwritten settings query := by
  have hread : Search.ofValue lib .null = .answer .default [] := rfl
  rw [Search.statement_of_read hread, Outcome.after_nil]
  cases hcompile : compile query with
  | error fault =>
      have hwritten : ¬ Unwritten settings query := by
        rintro ⟨value, hvalue, -⟩
        rw [normalize_of_compile_error hcompile] at hvalue
        cases hvalue
      rw [Search.statementOf_of_compile_error hcompile, and_iff_left hwritten]
      exact handled_fault_iff.trans handled_fault_iff.symm
  | ok compiled =>
      have hhandled : Handled query (.ofExcept (.ok compiled : Except Fault Text)) :=
        Or.inl ⟨compiled, [], rfl⟩
      rw [and_iff_right hhandled]
      by_cases hunwritten : Unwritten settings query
      · rw [statementOf_of_unwritten hcompile hunwritten, handled_fault_iff]
        refine iff_of_false ?_ (not_not_intro hunwritten)
        rintro ⟨_, h⟩
        cases h
      · refine iff_of_true (Or.inl ?_) hunwritten
        exact (Search.statementOf_answers_iff lib settings document tsv query .default).mpr
          ⟨compiled, hcompile, (buildable_default_iff hcompile).mpr hunwritten⟩

/-- **A bad search string is handled unless it holds an oversized distance.**  The scanner, a
compilation, a normalization and a search without options answer or name the search string that
they refuse, except exactly for a text with a distance of too many digits; behind the marker nothing
is scanned.  A search in other settings than the built-in ones fails beside that only for a
normalization of these settings that cannot be written. -/
theorem handled_unless_oversized (lib : Validation) (document tsv : Option Text) (query : Text) :
    (Handled query (.ofExcept (Token.tokenize query)) ↔ ¬ ∃ n, HoldsOversized query n) ∧
    (Handled query (.ofExcept (compile query)) ↔
      isCompiled query = true ∨ ¬ ∃ n, HoldsOversized query n) ∧
    (Handled query (.ofExcept (normalize query)) ↔
      isCompiled query = true ∨ ¬ ∃ n, HoldsOversized query n) ∧
    (Handled query (Search.statement lib {} document tsv query .null) ↔
      isCompiled query = true ∨ ¬ ∃ n, HoldsOversized query n) ∧
    ∀ settings, Handled query (Search.statement lib settings document tsv query .null) ↔
      (isCompiled query = true ∨ ¬ ∃ n, HoldsOversized query n) ∧ ¬ Unwritten settings query := by
  have hbuiltIn : ¬ Unwritten {} query := by
    rintro ⟨-, -, -, hunwritable⟩
    exact hunwritable (by decide)
  refine ⟨handled_tokenize_iff query, handled_compile_iff query, ?_, ?_, ?_⟩
  · rw [handled_normalize_iff, handled_compile_iff]
  · rw [handled_statement_iff, handled_compile_iff, and_iff_left hbuiltIn]
  · intro settings
    rw [handled_statement_iff, handled_compile_iff]

/-- A closed distance of one digit more than an integer may have is refused as a number. -/
theorem not_handled_oversized_angle :
    ¬ ∀ query : Text, Handled query (.ofExcept (Token.tokenize query)) ∧
      Handled query (.ofExcept (compile query)) ∧
      Handled query (.ofExcept (normalize query)) ∧
      ∀ document tsv, Handled query (Search.statement .standard {} document tsv query .null) := by
  intro h
  have hdigits : (List.replicate (Numeral.maxDigits + 1) '1').all Char.isDigit = true := by
    rw [List.all_replicate]
    rfl
  have hlong : Numeral.maxDigits < (List.replicate (Numeral.maxDigits + 1) '1').length := by
    rw [List.length_replicate]
    exact Nat.lt_succ_self _
  have hshort : Grammar.Spells ([] ++ [.around 1]) ([] ++ ['<'] ++ ['1', '>']) :=
    (run_eq_ok_iff _ 0 _).mp rfl
  have hholds : HoldsOversized ([] ++ ['<'] ++ List.replicate (Numeral.maxDigits + 1) '1' ++ ['>'])
      (List.replicate (Numeral.maxDigits + 1) '1').length := .intro .angle hdigits hlong hshort
  exact (handled_tokenize_iff _).mp (h _).1 ⟨_, hholds⟩

end Query

end FullTextSearch
