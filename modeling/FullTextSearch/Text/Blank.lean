/-
# `FullTextSearch.Text.Blank` — text as code points, and the blanks between words.

Every text of this library is a list of code points, so an offset or a length counts code points and
never bytes.  A code point here is a `Char`, a Unicode scalar value: lone surrogates, which a string
of the host may hold, are left out, as no text with one can be encoded for a database.

Search strings, `ORDER BY` lists and settings are all cut at the same 29 blank code points: trimming,
word splitting and the skipping after a comma agree on them.  Zero width spaces (`U+200B`, `U+FEFF`)
are not blank, and neither is the Mongolian vowel separator (`U+180E`).

The statements here say that trimming leaves no blank in front and that no word is empty.
-/

namespace FullTextSearch

/-- A text is its list of code points. -/
abbrev Text := List Char

/-- The blank code points: the ASCII controls that separate text, the spaces of every width, and the
line and paragraph separators. -/
def isBlank (c : Char) : Bool :=
  let n := c.toNat
  (9 ≤ n && n ≤ 13) || (28 ≤ n && n ≤ 32) || n == 0x85 || n == 0xA0 || n == 0x1680 ||
    (0x2000 ≤ n && n ≤ 0x200A) || n == 0x2028 || n == 0x2029 || n == 0x202F || n == 0x205F ||
    n == 0x3000

namespace Text

/-! ## Trimming -/

/-- The text from its first code point that is not blank. -/
def trimStart (t : Text) : Text := t.dropWhile isBlank

/-- The text up to its last code point that is not blank. -/
def trimEnd (t : Text) : Text := (t.reverse.dropWhile isBlank).reverse

/-- The text without the blanks at its two ends. -/
def trim (t : Text) : Text := trimEnd (trimStart t)

/-- A text of blanks only; the empty text is one. -/
def isAllBlank (t : Text) : Bool := t.all isBlank

/-! ## Words -/

/-- The maximal runs of code points that are not blank, in order. -/
def words (t : Text) : List Text := (t.splitOnP isBlank).filter fun w => !w.isEmpty

/-- The words of a text, joined by single spaces. -/
def joinWords (ws : List Text) : Text := List.intercalate [' '] ws

/-- The text with every run of blanks narrowed to one space, and none at its ends. -/
def collapse (t : Text) : Text := joinWords (words t)

/-! ## Lists in one text -/

/-- The pieces of a text between its commas.  Blanks after a comma belong to the comma; blanks before
one belong to the piece in front of it. -/
def commaList (t : Text) : List Text :=
  match t.splitOn ',' with
  | [] => []
  | first :: rest => first :: rest.map trimStart

/-! ## Optional texts -/

/-- A text that is given and not empty. -/
def given? : Option Text → Option Text
  | some (c :: rest) => some (c :: rest)
  | _ => none

/-! ## Small lemmas -/

theorem trimStart_cons_of_not_blank {c : Char} {t : Text} (h : isBlank c = false) :
    trimStart (c :: t) = c :: t := by
  simp [trimStart, h]

/-- After trimming at the start the text is empty or starts with a code point that is not blank. -/
theorem head_trimStart_not_blank (t : Text) : ∀ c ∈ (trimStart t).head?, isBlank c = false := by
  intro c hc
  induction t with
  | nil => simp [trimStart] at hc
  | cons d t ih =>
    by_cases hd : isBlank d = true
    · exact ih (by simpa [trimStart, hd] using hc)
    · simp [trimStart, hd] at hc
      simpa [← hc] using hd

theorem given?_eq_some_iff {o : Option Text} {t : Text} :
    given? o = some t ↔ o = some t ∧ t ≠ [] := by
  rcases o with _ | _ | ⟨c, rest⟩
  · simp [given?]
  · simp +contextual [given?, eq_comm]
  · simp +contextual [given?, eq_comm]

theorem words_nil : words [] = [] := by simp [words]

/-- No word is empty. -/
theorem ne_nil_of_mem_words {t w : Text} (h : w ∈ words t) : w ≠ [] := by
  simp [words] at h
  exact h.2

end Text

end FullTextSearch
