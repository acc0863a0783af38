/-
# `FullTextSearch.Token.Scan` — splitting a search string into tokens.

The scanner reads one code point at a time and remembers only its `Mode`: the open text (a word that
may still grow, or nothing), an open quote with what it holds so far, or an open proximity distance.
`step` is the whole rule; `advance` repeats it over a text and `finish` says what the end of the
text completes.  The statement here is `advance_append`: splitting a text in two splits its run in
two.

A quote also ends a word, and an unterminated quote is closed by the end of the text.  The only ways
to fail are a code point that no continuation can mend and an oversized distance.
-/
import FullTextSearch.Token
import FullTextSearch.Fault
import FullTextSearch.Text.Case

namespace FullTextSearch

namespace Scan

/-! ## Modes -/

/-- What opened a proximity distance, and so what closes it. -/
inductive Bracket where
  /-- The brackets of `<n>`. -/
  | angle
  /-- The parentheses of `AROUND(n)`. -/
  | paren
deriving DecidableEq, Repr

/-- The code point that closes a distance. -/
def Bracket.closer : Bracket → Char
  | .angle => '>'
  | .paren => ')'

/-- What the scanner is in the middle of. -/
inductive Mode where
  /-- Between lexemes when `word` is empty, else inside that word. -/
  | text (word : Text)
  /-- Inside a quote that holds `content` so far. -/
  | quote (content : Text)
  /-- Inside a proximity distance that holds `content` so far. -/
  | distance (bracket : Bracket) (content : Text)
deriving DecidableEq, Repr

/-- Why scanning stops without tokens. -/
inductive Flaw where
  /-- The text up to and with this offset starts no search string. -/
  | misplaced (offset : Nat)
  /-- A distance of too many digits. -/
  | oversized (digits : Nat)
deriving DecidableEq, Repr

/-! ## Completed lexemes -/

/-- A finished word: `AND` and `OR` in any case are operators. -/
def ofWord (word : Text) : Token :=
  if word.capitals = "OR".toList then .or
  else if word.capitals = "AND".toList then .and
  else .word word

/-- The token, if any, that ends with the open word. -/
def flush (word : Text) : List Token := if word = [] then [] else [ofWord word]

/-- The phrase in a finished quote. -/
def ofQuote (content : Text) : Token := .phrase content.collapse

/-- The token of a closed distance: `<->` stands for the distance one, all else is a numeral of at
least one digit. -/
def ofDistance (bracket : Bracket) (content : Text) (offset : Nat) : Except Flaw Token :=
  if content = ['-'] ∧ bracket = .angle then .ok (.around 1)
  else if content ≠ [] ∧ content.all Char.isDigit = true then
    if content.length ≤ Numeral.maxDigits then .ok (.around (Numeral.value content))
    else .error (.oversized content.length)
  else .error (.misplaced offset)

/-! ## The run -/

/-- One code point inside a proximity distance: what closes it, a digit, or the dash of `<->`. -/
def stepDistance (bracket : Bracket) (content : Text) (offset : Nat) (c : Char) :
    Except Flaw (List Token × Mode) :=
  if c = bracket.closer then
    (ofDistance bracket content offset).map fun token => ([token], .text [])
  else if c.isDigit ∧ content ≠ ['-'] then .ok ([], .distance bracket (content ++ [c]))
  else if c = '-' ∧ content = [] ∧ bracket = .angle then .ok ([], .distance bracket ['-'])
  else .error (.misplaced offset)

/-- One code point outside quotes and distances.  Every operator, bracket and blank ends the open
word; only `AROUND` directly before a parenthesis is not a word. -/
def stepText (word : Text) (offset : Nat) (c : Char) : Except Flaw (List Token × Mode) :=
  match c with
  | '"' => .ok (flush word, .quote [])
  | '|' => .ok (flush word ++ [.or], .text [])
  | '&' => .ok (flush word ++ [.and], .text [])
  | '-' | '!' => .ok (flush word ++ [.minus], .text [])
  | ')' => .ok (flush word ++ [.closeParen], .text [])
  | '(' =>
    if word.capitals = "AROUND".toList then .ok ([], .distance .paren [])
    else .ok (flush word ++ [.openParen], .text [])
  | '<' => .ok (flush word, .distance .angle [])
  | '>' => .error (.misplaced offset)
  | c => if isBlank c then .ok (flush word, .text []) else .ok ([], .text (word ++ [c]))

/-- One code point inside a quote. -/
def stepQuote (content : Text) (c : Char) : List Token × Mode :=
  if c = '"' then ([ofQuote content], .text []) else ([], .quote (content ++ [c]))

/-- One code point: the tokens it completes and the mode it leaves. -/
def step (offset : Nat) (c : Char) : Mode → Except Flaw (List Token × Mode)
  | .text word => stepText word offset c
  | .quote content => .ok (stepQuote content c)
  | .distance bracket content => stepDistance bracket content offset c

/-- What the end of the text completes.  Only a distance cannot end there. -/
def finish (offset : Nat) : Mode → Except Flaw (List Token)
  | .text word => .ok (flush word)
  | .quote content => .ok [ofQuote content]
  | .distance _ _ => .error (.misplaced offset)

/-- The tokens that a text completes when it is entered in a mode and starts at an offset, and the
mode in which it ends. -/
def advance (offset : Nat) : Text → Mode → Except Flaw (List Token × Mode)
  | [], mode => .ok ([], mode)
  | c :: rest, mode =>
    match step offset c mode with
    | .error flaw => .error flaw
    | .ok (done, next) =>
      match advance (offset + 1) rest next with
      | .error flaw => .error flaw
      | .ok (more, last) => .ok (done ++ more, last)

/-- The tokens of a whole text. -/
def run (offset : Nat) (t : Text) (mode : Mode) : Except Flaw (List Token) :=
  match advance offset t mode with
  | .error flaw => .error flaw
  | .ok (done, last) => (finish (offset + t.length) last).map (done ++ ·)

/-- A run over two texts is a run over the first, continued in the mode in which that one ends. -/
theorem advance_append (offset : Nat) (s t : Text) (mode : Mode) :
    advance offset (s ++ t) mode =
      match advance offset s mode with
      | .error flaw => .error flaw
      | .ok (done, next) =>
        match advance (offset + s.length) t next with
        | .error flaw => .error flaw
        | .ok (more, last) => .ok (done ++ more, last) := by
  induction s generalizing offset mode with
  | nil =>
    simp only [List.nil_append, advance, List.length_nil, Nat.add_zero]
    cases advance offset t mode <;> rfl
  | cons c s ih =>
    simp only [List.cons_append, advance, List.length_cons]
    cases step offset c mode with
    | error flaw => rfl
    | ok now =>
      simp only [ih, Nat.add_right_comm offset 1 s.length, Nat.add_assoc offset s.length 1]
      cases advance (offset + 1) s now.2 with
      | error flaw => rfl
      | ok done =>
        simp only
        cases advance (offset + (s.length + 1)) t done.2 with
        | error flaw => rfl
        | ok more => simp

/-- The fault that a flaw in a search string is reported as. -/
def Flaw.toFault (query : Text) : Flaw → Fault
  | .misplaced offset => .malformedQuery query offset
  | .oversized digits => .oversizedNumber digits

end Scan

/-- The tokens of a search string. -/
def Token.tokenize (query : Text) : Except Fault (List Token) :=
  (Scan.run 0 query (.text [])).mapError (Scan.Flaw.toFault query)

end FullTextSearch
