/-
# `FullTextSearch.Text.Quoted` — a text displayed inside a larger value.

A displayed text stands between single quotes, or between double quotes when it holds a single quote
and no double quote.  The enclosing quote and the backslash are escaped by a backslash, tabs and
line ends by their letters, and other code points without a shape by number, in the shortest of the
three widths that hold it.
-/
import FullTextSearch.Text.Blank
import FullTextSearch.Text.Printable

namespace FullTextSearch.Text

/-- A number in at least `width` hexadecimal digits. -/
def hexadecimal (width n : Nat) : Text :=
  let digits := Nat.toDigits 16 n
  List.replicate (width - digits.length) '0' ++ digits

/-- The escape of a code point by number. -/
def escapeNumber (n : Nat) : Text :=
  if n < 0x100 then ['\\', 'x'] ++ hexadecimal 2 n
  else if n < 0x10000 then ['\\', 'u'] ++ hexadecimal 4 n
  else ['\\', 'U'] ++ hexadecimal 8 n

/-- One code point between quotes; `shown` says which ones need no number. -/
def displayChar (quote : Char) (shown : Char → Bool) (c : Char) : Text :=
  if c = quote ∨ c = '\\' then ['\\', c]
  else if c = '\t' then ['\\', 't']
  else if c = '\n' then ['\\', 'n']
  else if c = '\r' then ['\\', 'r']
  else if shown c then [c]
  else escapeNumber c.toNat

/-- The quote that encloses a displayed text. -/
def enclosingQuote (t : Text) : Char := if '\'' ∈ t ∧ '"' ∉ t then '"' else '\''

/-- A text between quotes, with escapes. -/
def quotedWith (shown : Char → Bool) (t : Text) : Text :=
  let quote := enclosingQuote t
  [quote] ++ t.flatMap (displayChar quote shown) ++ [quote]

/-- A text as it is displayed inside a larger value. -/
def quoted (t : Text) : Text := quotedWith isPrintable t

/-- A string of octets as it is displayed: octets outside printable ASCII are shown by number. -/
def quotedOctets (octets : List UInt8) : Text :=
  let ascii := fun c : Char => 32 ≤ c.toNat && c.toNat < 127
  'b' :: quotedWith ascii (octets.map fun o => Char.ofNat o.toNat)

end FullTextSearch.Text
