/-
# `FullTextSearch.Proofs.Scanning` — the scanner reads exactly its lexical grammar.

The scanner decides what a word is only when the word ends, and forgets the letters of `AROUND` once
a parenthesis follows.  Its runs are therefore described from both sides.  Forwards, each lexeme is
a piece of a run from open text to open text, a bare word one that stays open until the text behind
it is known to part from it (`run_text_of_parted`).  Backwards, `Opens` says which text may lie
behind a mode, and a successful run from a mode completes every such text to a spelling
(`spells_of_run`).

The main statement is `tokenize_eq_ok_iff_spells`: scanning yields a token list exactly if the text
spells it.
-/
import FullTextSearch.Proofs.Grammar
import FullTextSearch.Token.Scan

namespace FullTextSearch.Scan

open Grammar

/-! ## Runs in parts -/

theorem run_nil (offset : Nat) (mode : Mode) : run offset [] mode = finish offset mode := by
  simp only [run, advance, List.length_nil, Nat.add_zero]
  cases finish offset mode <;> rfl

/-- A run is one step and the run behind it. -/
theorem run_cons (offset : Nat) (c : Char) (rest : Text) (mode : Mode) :
    run offset (c :: rest) mode =
      match step offset c mode with
      | .error flaw => .error flaw
      | .ok (done, next) => (run (offset + 1) rest next).map (done ++ ·) := by
  simp only [run, advance, List.length_cons]
  cases step offset c mode with
  | error flaw => rfl
  | ok now =>
      obtain ⟨done, next⟩ := now
      simp only
      cases advance (offset + 1) rest next with
      | error flaw => rfl
      | ok more =>
          simp only [Nat.add_comm rest.length 1, Nat.add_assoc offset 1]
          cases finish (offset + (1 + rest.length)) more.2 with
          | error flaw => rfl
          | ok tail => simp [Except.map]

/-- What a result is mapped by has no part in its flaw. -/
theorem eq_error_of_map {α β : Type} {r : Except Flaw α} {f : α → β} {flaw : Flaw}
    (h : r.map f = .error flaw) : r = .error flaw := by
  cases r with
  | error own =>
      cases h
      rfl
  | ok a => cases h

/-- A run over two texts, the first of which is passed. -/
theorem run_append {offset : Nat} {s : Text} {mode next : Mode} {done : List Token}
    (h : advance offset s mode = .ok (done, next)) (t : Text) :
    run offset (s ++ t) mode = (run (offset + s.length) t next).map (done ++ ·) := by
  simp only [run, advance_append, h, List.length_append, Nat.add_assoc]
  cases advance (offset + s.length) t next with
  | error flaw => rfl
  | ok more =>
      simp only
      cases finish (offset + (s.length + t.length)) more.2 with
      | error flaw => rfl
      | ok tail => simp [Except.map]

/-- Two passed texts in a row are a passed text. -/
theorem advance_append_ok {offset : Nat} {s t : Text} {mode next last : Mode}
    {done more : List Token} (hs : advance offset s mode = .ok (done, next))
    (ht : advance (offset + s.length) t next = .ok (more, last)) :
    advance offset (s ++ t) mode = .ok (done ++ more, last) := by
  simp only [advance_append, hs, ht]

/-- A text is passed only if its two parts are. -/
theorem exists_of_advance_append {offset : Nat} {s t : Text} {mode last : Mode}
    {done : List Token} (h : advance offset (s ++ t) mode = .ok (done, last)) :
    ∃ now next more, advance offset s mode = .ok (now, next) ∧
      advance (offset + s.length) t next = .ok (more, last) ∧ now ++ more = done := by
  rw [advance_append] at h
  cases hs : advance offset s mode with
  | error flaw =>
      rw [hs] at h
      cases h
  | ok first =>
      obtain ⟨now, next⟩ := first
      simp only [hs] at h
      cases ht : advance (offset + s.length) t next with
      | error flaw =>
          rw [ht] at h
          cases h
      | ok behind =>
          obtain ⟨more, last⟩ := behind
          rw [ht] at h
          cases h
          exact ⟨now, next, more, rfl, ht, rfl⟩

/-- A single code point is passed by its step. -/
theorem advance_singleton (offset : Nat) (c : Char) (mode : Mode) :
    advance offset [c] mode = step offset c mode := by
  rw [advance]
  cases step offset c mode with
  | error flaw => rfl
  | ok now => simp [advance]

/-! ## Single steps in open text -/

/-- A word code point is added to the open word. -/
theorem stepText_of_isWordChar {c : Char} (h : isWordChar c = true) (word : Text) (offset : Nat) :
    stepText word offset c = .ok ([], .text (word ++ [c])) := by
  unfold stepText
  split
  all_goals first
    | exact absurd h (by decide)
    | skip
  simp only [isWordChar, Bool.and_eq_true, Bool.not_eq_true'] at h
  rw [if_neg (by simp [h.2])]

/-- Every other code point first ends the open word, except for a parenthesis after `AROUND`. -/
theorem stepText_flush {c : Char} {word : Text} (hc : isWordChar c = false)
    (hparen : c = '(' → word.capitals ≠ "AROUND".toList) (offset : Nat) :
    stepText word offset c =
      (stepText [] offset c).map fun now => (flush word ++ now.1, now.2) := by
  unfold stepText
  split
  case h_7 =>
    rw [if_neg (hparen rfl), if_neg (by decide)]
    simp [flush, Except.map]
  case h_10 =>
    -- no special code point is left, so this one is a blank
    have hblank : isBlank c = true := by simp_all [isWordChar, isSpecial]
    rw [if_pos hblank, if_pos hblank]
    simp [flush, Except.map]
  all_goals simp [flush, Except.map]

/-- A parenthesis directly after `AROUND` opens a distance, and the word is no word. -/
theorem stepText_around {word : Text} (h : word.capitals = "AROUND".toList) (offset : Nat) :
    stepText word offset '(' = .ok ([], .distance .paren []) := if_pos h

/-- The end of a text that parts from the open word ends the word and changes nothing else. -/
theorem run_text_of_parted {word rest : Text}
    (h : ∀ c ∈ rest.head?, isWordChar c = false ∧ (c = '(' → word.capitals ≠ "AROUND".toList))
    (offset : Nat) :
    run offset rest (.text word) = (run offset rest (.text [])).map (flush word ++ ·) := by
  cases rest with
  | nil => simp [run_nil, finish, flush, Except.map]
  | cons c rest =>
      obtain ⟨hc, hparen⟩ := h c rfl
      rw [run_cons, run_cons, step, step, stepText_flush hc hparen]
      cases stepText [] offset c with
      | error flaw => rfl
      | ok now =>
          simp only [Except.map]
          cases run (offset + 1) rest now.2 with
          | error flaw => rfl
          | ok more => simp

/-! ## Passed texts -/

/-- Blanks between lexemes are passed over. -/
theorem advance_blanks {gap : Text} (h : gap.isAllBlank = true) (offset : Nat) :
    advance offset gap (.text []) = .ok ([], .text []) := by
  induction gap generalizing offset with
  | nil => rfl
  | cons c gap ih =>
      simp only [Text.isAllBlank, List.all_cons, Bool.and_eq_true] at h
      have hstep : stepText [] offset c = .ok ([], .text []) := by
        unfold stepText
        split
        all_goals first
          | exact absurd h.1 (by decide)
          | skip
        rw [if_pos h.1]
        rfl
      simp only [advance, step, hstep, ih h.2, List.append_nil]

/-- A run of word code points is kept as the open word. -/
theorem advance_word {w : Text} (h : ∀ c ∈ w, isWordChar c = true) (word : Text) (offset : Nat) :
    advance offset w (.text word) = .ok ([], .text (word ++ w)) := by
  induction w generalizing word offset with
  | nil => simp [advance]
  | cons c w ih =>
      have hc := stepText_of_isWordChar (h c List.mem_cons_self) word offset
      have hw := ih (fun d hd => h d (List.mem_cons_of_mem c hd)) (word ++ [c]) (offset + 1)
      simp [advance, step, hc, hw]

/-- A text without quotes is kept as the content of the open quote. -/
theorem advance_quote {s : Text} (h : '"' ∉ s) (content : Text) (offset : Nat) :
    advance offset s (.quote content) = .ok ([], .quote (content ++ s)) := by
  induction s generalizing content offset with
  | nil => simp [advance]
  | cons c s ih =>
      rw [List.mem_cons, not_or] at h
      have hc : ¬ c = '"' := fun hc => h.1 hc.symm
      have hs := ih h.2 (content ++ [c]) (offset + 1)
      simp [advance, step, stepQuote, hc, hs]

/-- A quote opens, and keeps what follows it. -/
theorem advance_openQuote {s : Text} (h : '"' ∉ s) (offset : Nat) :
    advance offset (['"'] ++ s) (.text []) = .ok ([], .quote s) := by
  have hopen : advance offset ['"'] (.text []) = .ok ([], .quote []) := rfl
  simpa using advance_append_ok hopen (advance_quote h [] _)

/-- The dash of `<->` is no run of digits. -/
theorem ne_dash_of_digits {d : Text} (h : d.all Char.isDigit = true) : d ≠ ['-'] := by
  rintro rfl
  exact absurd h (by decide)

/-- Digits are kept as the content of the open distance. -/
theorem advance_digits {d : Text} (h : d.all Char.isDigit = true) (bracket : Bracket)
    (content : Text) (hcontent : content.all Char.isDigit = true) (offset : Nat) :
    advance offset d (.distance bracket content) = .ok ([], .distance bracket (content ++ d)) := by
  induction d generalizing content offset with
  | nil => simp [advance]
  | cons c d ih =>
      simp only [List.all_cons, Bool.and_eq_true] at h
      have hcloser : ¬ c = bracket.closer := by
        rintro rfl
        cases bracket <;> exact absurd h.1 (by decide)
      have hd := ih h.2 (content ++ [c]) (by simp [hcontent, h.1]) (offset + 1)
      simp [advance, step, stepDistance, hcloser, h.1, ne_dash_of_digits hcontent, hd]

/-- A closed distance of digits is the operator of its value. -/
theorem ofDistance_of_isDistance {d : Text} {n : Nat} (h : IsDistance d n) (bracket : Bracket)
    (offset : Nat) : ofDistance bracket d offset = .ok (.around n) := by
  obtain ⟨hne, hlength, hdigits, rfl⟩ := h
  rw [ofDistance, if_neg (fun hdash => ne_dash_of_digits hdigits hdash.1),
    if_pos ⟨hne, hdigits⟩, if_pos hlength]

/-- A distance is read from its opening bracket to its closing one. -/
theorem advance_distance {d : Text} {n : Nat} (h : IsDistance d n) (bracket : Bracket)
    (offset : Nat) :
    advance offset (d ++ [bracket.closer]) (.distance bracket []) =
      .ok ([.around n], .text []) := by
  have hdigits := advance_digits h.2.2.1 bracket [] rfl offset
  refine advance_append_ok hdigits ?_
  simp [advance, step, stepDistance, ofDistance_of_isDistance h, Except.map]

/-- The keyword before a parenthesis opens a distance. -/
theorem advance_around {w : Text} (h : w.capitals = "AROUND".toList) (offset : Nat) :
    advance offset (w ++ ['(']) (.text []) = .ok ([], .distance .paren []) := by
  have hbare : IsBareword w := isBareword_of_capitals (by rw [h]; decide)
  refine advance_append_ok (advance_word hbare.2 [] offset) ?_
  simp only [advance, step, List.nil_append, stepText_around h]

/-! ## Spelled texts are read -/

/-- A bare word is the token that it spells. -/
theorem ofWord_of_lexeme {t : Token} {w : Text} (h : Lexeme t w) (hbare : IsBareword w) :
    ofWord w = t := by
  -- a lexeme that is no word starts with a special code point or holds a parenthesis
  cases h with
  | word _ notAnd notOr => rw [ofWord, if_neg notOr, if_neg notAnd]
  | andWord keyword =>
      have hor : w.capitals ≠ "OR".toList := by
        rw [keyword]
        decide
      rw [ofWord, if_neg hor, if_pos keyword]
  | orWord keyword => rw [ofWord, if_pos keyword]
  | around keyword distance =>
      have hparen := hbare.2 '(' (by simp)
      exact absurd hparen (by decide)
  | phrase closed =>
      have hquote := hbare.2 '"' (by simp)
      exact absurd hquote (by decide)
  | angle distance =>
      have hangle := hbare.2 '<' (by simp)
      exact absurd hangle (by decide)
  | andSign | orSign | dash | bang | openParen | closeParen | arrow =>
      exact absurd hbare (by decide)

/-- A lexeme that is no bare word is read on its own. -/
theorem advance_lexeme {t : Token} {l : Text} (h : Lexeme t l) (hbare : ¬ IsBareword l)
    (offset : Nat) : advance offset l (.text []) = .ok ([t], .text []) := by
  cases h with
  | word bare => exact absurd bare hbare
  | andWord keyword =>
      exact absurd (isBareword_of_capitals (by rw [keyword]; decide)) hbare
  | orWord keyword =>
      exact absurd (isBareword_of_capitals (by rw [keyword]; decide)) hbare
  | @phrase s closed =>
      refine advance_append_ok (advance_openQuote closed offset) ?_
      simp [advance, step, stepQuote, ofQuote]
  | @angle d n distance =>
      have hopen : advance offset ['<'] (.text []) = .ok ([], .distance .angle []) := rfl
      rw [List.append_assoc]
      exact advance_append_ok hopen (advance_distance distance .angle _)
  | @around w d n keyword distance =>
      rw [List.append_assoc]
      exact advance_append_ok (advance_around keyword offset) (advance_distance distance .paren _)
  | andSign | orSign | dash | bang | openParen | closeParen | arrow => rfl

/-- **A text is read as every token list that it spells.** -/
theorem run_of_spells {ts : List Token} {x : Text} (h : Spells ts x) (offset : Nat) :
    run offset x (.text []) = .ok ts := by
  induction h generalizing offset with
  | blank blank =>
      simp only [run, advance_blanks blank, finish, flush, Except.map]
      rfl
  | @token gap lexeme rest t ts blank spelling parted more ih =>
      rw [List.append_assoc, run_append (advance_blanks blank offset)]
      by_cases hbare : IsBareword lexeme
      · -- the word stays open until the rest shows where it ends
        rw [run_append (advance_word hbare.2 [] _), List.nil_append,
          run_text_of_parted (parted hbare), ih]
        simp [flush, hbare.1, ofWord_of_lexeme spelling hbare, Except.map]
      · rw [run_append (advance_lexeme spelling hbare _), ih]
        simp [Except.map]
  | @unclosed gap s blank quote =>
      rw [List.append_assoc, run_append (advance_blanks blank offset)]
      simp only [run, advance_openQuote quote, finish, ofQuote, Except.map]
      rfl

/-! ## Read texts are spelled -/

/-- What may lie behind a mode since the last lexeme ended. -/
inductive Opens : Mode → Text → Prop
  | text {w : Text} (bare : ∀ c ∈ w, isWordChar c = true) : Opens (.text w) w
  | quote {s : Text} (closed : '"' ∉ s) : Opens (.quote s) (['"'] ++ s)
  | angle {d : Text} (digits : d = ['-'] ∨ d.all Char.isDigit = true) :
      Opens (.distance .angle d) (['<'] ++ d)
  | paren {w d : Text} (keyword : w.capitals = "AROUND".toList)
      (digits : d.all Char.isDigit = true) : Opens (.distance .paren d) (w ++ ['('] ++ d)

/-- **One step, backwards.**  Every spelling of what may follow the step, put behind the text of the
next mode, is a spelling of what may follow the text of this mode, with the completed tokens in
front. -/
def Continues (behind : Text) (c : Char) (done : List Token) (next : Mode) : Prop :=
  ∃ behind', Opens next behind' ∧
    ∀ ts rest, Spells ts (behind' ++ rest) → Spells (done ++ ts) (behind ++ c :: rest)

/-- A step that completes nothing and keeps its code point. -/
theorem continues_of_opens {behind : Text} {c : Char} {next : Mode}
    (h : Opens next (behind ++ [c])) : Continues behind c [] next :=
  ⟨behind ++ [c], h, fun ts rest hts => by simpa using hts⟩

/-- A step that completes a lexeme other than a bare word. -/
theorem continues_of_lexeme {behind : Text} {c : Char} {t : Token}
    (spelling : Lexeme t (behind ++ [c])) (hl : ¬ IsBareword (behind ++ [c])) :
    Continues behind c [t] (.text []) := by
  refine ⟨[], .text (by simp), fun ts rest hts => ?_⟩
  simpa using Spells.cons_lexeme spelling hl hts

/-- A bare word spells the token that it is read as. -/
theorem lexeme_ofWord {w : Text} (h : IsBareword w) : Lexeme (ofWord w) w := by
  by_cases hor : w.capitals = "OR".toList
  · rw [ofWord, if_pos hor]
    exact .orWord hor
  · by_cases hand : w.capitals = "AND".toList
    · rw [ofWord, if_neg hor, if_pos hand]
      exact .andWord hand
    · rw [ofWord, if_neg hor, if_neg hand]
      exact .word h hand hor

/-- A finished word in front of a spelling that parts from it. -/
theorem spells_flush {w : Text} (hw : ∀ c ∈ w, isWordChar c = true) {ts : List Token} {c : Char}
    {x : Text} (hc : isWordChar c = false) (hparen : c = '(' → w.capitals ≠ "AROUND".toList)
    (h : Spells ts (c :: x)) : Spells (flush w ++ ts) (w ++ c :: x) := by
  by_cases hne : w = []
  · simpa [hne, flush] using h
  · have hparted : Parted w (c :: x) := by
      intro _ d hd
      obtain rfl : c = d := by simpa using hd
      exact ⟨hc, hparen⟩
    rw [flush, if_neg hne]
    exact .cons_parted (lexeme_ofWord ⟨hne, hw⟩) hparted h

/-- A step in open text that holds no word yet. -/
theorem continues_of_stepText_nil {c : Char} (hc : isWordChar c = false) {offset : Nat}
    {done : List Token} {next : Mode} (h : stepText [] offset c = .ok (done, next)) :
    Continues [] c done next := by
  unfold stepText at h
  split at h
  case h_1 => cases h; exact continues_of_opens (.quote (s := []) (by simp))
  case h_2 => cases h; exact continues_of_lexeme .orSign (by decide)
  case h_3 => cases h; exact continues_of_lexeme .andSign (by decide)
  case h_4 => cases h; exact continues_of_lexeme .dash (by decide)
  case h_5 => cases h; exact continues_of_lexeme .bang (by decide)
  case h_6 => cases h; exact continues_of_lexeme .closeParen (by decide)
  case h_7 => cases h; exact continues_of_lexeme .openParen (by decide)
  case h_8 => cases h; exact continues_of_opens (.angle (d := []) (by simp))
  case h_9 => cases h
  case h_10 =>
    have hblank : isBlank c = true := by simp_all [isWordChar, isSpecial]
    rw [if_pos hblank] at h
    cases h
    exact ⟨[], .text (by simp), fun ts rest hts => hts.cons_blank hblank⟩

/-- A step in open text. -/
theorem continues_of_stepText {w : Text} (hw : ∀ c ∈ w, isWordChar c = true) {c : Char}
    {offset : Nat} {done : List Token} {next : Mode}
    (h : stepText w offset c = .ok (done, next)) : Continues w c done next := by
  by_cases hc : isWordChar c = true
  · rw [stepText_of_isWordChar hc] at h
    cases h
    refine continues_of_opens (.text fun d hd => ?_)
    rcases List.mem_append.mp hd with hd | hd
    · exact hw d hd
    · rwa [List.mem_singleton.mp hd]
  · rw [Bool.not_eq_true] at hc
    by_cases hparen : c = '(' ∧ w.capitals = "AROUND".toList
    · obtain ⟨rfl, hkeyword⟩ := hparen
      rw [stepText_around hkeyword] at h
      cases h
      exact continues_of_opens (by simpa using Opens.paren (d := []) hkeyword rfl)
    · -- the word ends here, and the rest of the step is one without a word
      have hpart : c = '(' → w.capitals ≠ "AROUND".toList := fun h1 h2 => hparen ⟨h1, h2⟩
      rw [stepText_flush hc hpart] at h
      cases hnil : stepText [] offset c with
      | error flaw => simp [hnil, Except.map] at h
      | ok now =>
          obtain ⟨now, after⟩ := now
          simp only [hnil, Except.map] at h
          cases h
          obtain ⟨behind', hopens, hspells⟩ := continues_of_stepText_nil hc hnil
          refine ⟨behind', hopens, fun ts rest hts => ?_⟩
          rw [List.append_assoc]
          exact spells_flush hw hc hpart (hspells ts rest hts)

/-- What a closed distance was. -/
theorem of_ofDistance {bracket : Bracket} {d : Text} {offset : Nat} {t : Token}
    (h : ofDistance bracket d offset = .ok t) :
    (bracket = .angle ∧ d = ['-'] ∧ t = .around 1) ∨ ∃ n : Nat, IsDistance d n ∧ t = .around n := by
  unfold ofDistance at h
  split at h
  · next hdash => cases h; exact Or.inl ⟨hdash.2, hdash.1, rfl⟩
  · split at h
    · next hdigits =>
        split at h
        · next hlength =>
            cases h
            exact Or.inr ⟨_, ⟨hdigits.1, hlength, hdigits.2, rfl⟩, rfl⟩
        · cases h
    · cases h

/-- A step in a distance. -/
theorem continues_of_stepDistance {bracket : Bracket} {content behind : Text}
    (hopens : Opens (.distance bracket content) behind) {c : Char} {offset : Nat}
    {done : List Token} {next : Mode}
    (h : stepDistance bracket content offset c = .ok (done, next)) :
    Continues behind c done next := by
  unfold stepDistance at h
  split at h
  · next hclose =>
      -- the distance is closed
      cases hread : ofDistance bracket content offset with
      | error flaw => simp [hread, Except.map] at h
      | ok t =>
          simp only [hread, Except.map] at h
          cases h
          rcases of_ofDistance hread with ⟨rfl, rfl, rfl⟩ | ⟨n, hn, rfl⟩
          · cases hopens
            cases hclose
            exact continues_of_lexeme .arrow (by decide)
          · cases hopens with
            | angle digits =>
                cases hclose
                exact continues_of_lexeme (.angle hn) (not_isBareword_of_mem (c := '<') (by simp) rfl)
            | paren keyword digits =>
                cases hclose
                exact continues_of_lexeme (.around keyword hn)
                  (not_isBareword_of_mem (c := '(') (by simp) rfl)
  · split at h
    · next hdigit =>
        -- one more digit, which is never taken behind the dash of the short form
        cases h
        refine continues_of_opens ?_
        cases hopens with
        | angle digits =>
            rw [List.append_assoc]
            have hall := digits.resolve_left hdigit.2
            exact .angle (Or.inr (by simp [hall, hdigit.1]))
        | paren keyword digits =>
            rw [List.append_assoc]
            exact .paren keyword (by simp [digits, hdigit.1])
    · split at h
      · next hdash =>
          -- the dash of the short form, with nothing in front of it
          cases h
          obtain ⟨rfl, rfl, rfl⟩ := hdash
          cases hopens
          exact continues_of_opens (.angle (Or.inl rfl))
      · cases h

/-- One step in any mode. -/
theorem continues_of_step {mode next : Mode} {behind : Text} (hopens : Opens mode behind) {c : Char}
    {offset : Nat} {done : List Token} (h : step offset c mode = .ok (done, next)) :
    Continues behind c done next := by
  cases hopens with
  | text bare => exact continues_of_stepText bare h
  | @quote s closed =>
      simp only [step, stepQuote] at h
      split at h
      · next hc =>
          cases h
          subst hc
          exact continues_of_lexeme (.phrase closed) (not_isBareword_of_mem (c := '"') (by simp) rfl)
      · next hc =>
          cases h
          refine continues_of_opens ?_
          rw [List.append_assoc]
          have hc' : ¬ '"' = c := fun hq => hc hq.symm
          exact .quote (by simp [closed, hc'])
  | angle digits => exact continues_of_stepDistance (.angle digits) h
  | paren keyword digits => exact continues_of_stepDistance (.paren keyword digits) h

/-- **A successful run completes what lies behind its mode to a spelling.** -/
theorem spells_of_run {x : Text} {mode : Mode} {behind : Text} (hopens : Opens mode behind)
    {offset : Nat} {ts : List Token} (h : run offset x mode = .ok ts) : Spells ts (behind ++ x) := by
  induction x generalizing mode behind offset ts with
  | nil =>
      -- the end of the text ends a word and closes a quote, and a distance cannot end there
      rw [run_nil] at h
      rw [List.append_nil]
      cases hopens with
      | text bare =>
          cases h
          by_cases hne : behind = []
          · rw [hne]
            exact .blank rfl
          · have hparted : Parted behind [] := fun _ => by simp
            have hword := Spells.cons_parted (lexeme_ofWord ⟨hne, bare⟩) hparted (.blank rfl)
            simpa [flush, hne] using hword
      | quote closed =>
          cases h
          have hnone : Text.isAllBlank [] = true := rfl
          exact .unclosed hnone closed
      | angle digits => cases h
      | paren keyword digits => cases h
  | cons c x ih =>
      rw [run_cons] at h
      cases hstep : step offset c mode with
      | error flaw => simp [hstep] at h
      | ok now =>
          obtain ⟨done, next⟩ := now
          simp only [hstep] at h
          -- what lies behind the next mode is completed first, then carried back over the step
          obtain ⟨behind', hopens', hspells⟩ := continues_of_step hopens hstep
          cases hrest : run (offset + 1) x next with
          | error flaw => simp [hrest, Except.map] at h
          | ok more =>
              simp only [hrest, Except.map] at h
              cases h
              exact hspells more x (ih hopens' hrest)

/-- A run from the start yields exactly the token lists that the text spells. -/
theorem run_eq_ok_iff (x : Text) (offset : Nat) (ts : List Token) :
    run offset x (.text []) = .ok ts ↔ Spells ts x :=
  ⟨fun h => spells_of_run (.text (by simp)) h, fun h => run_of_spells h offset⟩

/-- A lexeme that is no bare word is the first one of every spelling in front of which it stands. -/
theorem spells_lexeme_append {t : Token} {l : Text} (h : Lexeme t l) (hbare : ¬ IsBareword l)
    {x : Text} {ts : List Token} (hspells : Spells ts (l ++ x)) :
    ∃ more, ts = t :: more ∧ Spells more x := by
  rw [← run_eq_ok_iff _ 0, run_append (advance_lexeme h hbare 0)] at hspells
  cases hrest : run (0 + l.length) x (.text []) with
  | error flaw =>
      rw [hrest] at hspells
      cases hspells
  | ok more =>
      rw [hrest] at hspells
      cases hspells
      exact ⟨more, rfl, (run_eq_ok_iff _ _ _).mp hrest⟩

/-- Blanks in front of a text are no part of what it spells. -/
theorem spells_append_blanks {gap x : Text} (h : gap.isAllBlank = true) {ts : List Token} :
    Spells ts (gap ++ x) ↔ Spells ts x := by
  have hrun := run_append (advance_blanks h 0) x
  have hmap : (run gap.length x (.text [])).map ([] ++ ·) = run gap.length x (.text []) := by
    cases run gap.length x (.text []) <;> rfl
  rw [Nat.zero_add, hmap] at hrun
  rw [← run_eq_ok_iff _ 0, hrun, run_eq_ok_iff]

theorem spells_trimStart {x : Text} {ts : List Token} : Spells ts x.trimStart ↔ Spells ts x := by
  have hgap : Text.isAllBlank (x.takeWhile isBlank) = true := List.all_takeWhile
  rw [← spells_append_blanks hgap, Text.trimStart, List.takeWhile_append_dropWhile]

/-- A search string has the tokens that a run over it yields. -/
theorem tokenize_eq_ok {x : Text} {ts : List Token} :
    Token.tokenize x = .ok ts ↔ run 0 x (.text []) = .ok ts := by
  rw [Token.tokenize]
  cases run 0 x (.text []) with
  | error flaw =>
      constructor
      · intro h
        cases h
      · intro h
        cases h
  | ok tokens =>
      -- the fault that a flaw is reported as plays no part here
      constructor
      · intro h
        cases h
        rfl
      · intro h
        cases h
        rfl

/-- **The scanner accepts exactly its lexical grammar.**  A search string has a token list exactly
if it spells that list. -/
theorem tokenize_eq_ok_iff_spells (x : Text) (ts : List Token) :
    Token.tokenize x = .ok ts ↔ Spells ts x :=
  tokenize_eq_ok.trans (run_eq_ok_iff x 0 ts)

end FullTextSearch.Scan
