/-
# `FullTextSearch.Text.Case` — capitals of keywords and lower case of any text.

Keywords of the query language (`AND`, `OR`, `AROUND`) and weight labels (`A` to `D`) are written in
any case.  Only the letters `a` to `z` have a capital among the letters of these keywords, so raising
them decides the comparison: every other code point stays as it is and keeps the text different from
all keywords.

Names of configurations and the first word of an order are lowered in full.  Single code points are
lowered by table, with two exceptions that no table of single code points can hold: the capital `I`
with a dot becomes two code points, and a capital sigma at the end of a word becomes the final sigma.
A sigma ends a word when a cased letter stands before it and none after it, looking through marks and
punctuation inside words on both sides.
-/
import FullTextSearch.Text.Blank
import FullTextSearch.Text.LetterTable

namespace FullTextSearch

/-- Whether one of a table's ranges holds a code point. -/
def inRanges (table : Array (Nat × Nat)) (c : Char) : Bool :=
  table.any fun (first, last) => first ≤ c.toNat && c.toNat ≤ last

/-- The small letter of a single code point; what has none is kept. -/
def lowerChar (c : Char) : Char :=
  let run := LetterTable.lowerRuns.find? fun (first, last, step, _) =>
    first ≤ c.toNat && c.toNat ≤ last && (c.toNat - first) % step == 0
  match run with
  | some (_, _, _, distance) => Char.ofNat (c.toNat + distance).toNat
  | none => c

/-- Whether the nearest code point that letter case does not look through is a cased letter. -/
def reachesCased (t : Text) : Bool :=
  match t.dropWhile (inRanges LetterTable.caseIgnorable) with
  | c :: _ => inRanges LetterTable.cased c
  | [] => false

namespace Text

/-! ## Capitals -/

/-- The text with its letters `a` to `z` raised, and everything else kept. -/
def capitals (t : Text) : Text := t.map Char.toUpper

/-! ## Lower case -/

/-- The lower case of a text that stands after `before`, which is given in reverse. -/
def lowerAfter (before : Text) : Text → Text
  | [] => []
  | c :: rest =>
    let small :=
      if c = 'İ' then ['i', Char.ofNat 0x307]
      else if c = 'Σ' then [if reachesCased before && !reachesCased rest then 'ς' else 'σ']
      else [lowerChar c]
    small ++ lowerAfter (c :: before) rest

/-- The lower case of a text. -/
def lower (t : Text) : Text := lowerAfter [] t

end Text

end FullTextSearch
