/-
# `FullTextSearch.Number.Reading` — numbers as people type them.

Integers and floating point numbers are read leniently: blanks around them, a sign, decimal digits
of any script, and single underscores between digits.  `plainForm` brings a text to ASCII first, so
the grammar behind it knows ASCII only; a code point without a plain form stays and spoils the
number.

A number may be typed with the digits of any script that counts in tens.  In the character database
such digits stand in runs of ten, zero first, so the table names the zeros only.
-/
import FullTextSearch.Number.Binary64

namespace FullTextSearch

/-! ## Decimal digits -/

/-- The code points of the digit zero in all scripts. -/
def digitZeros : List Nat :=
  [0x0030, 0x0660, 0x06F0, 0x07C0, 0x0966, 0x09E6, 0x0A66, 0x0AE6, 0x0B66, 0x0BE6, 0x0C66,
   0x0CE6, 0x0D66, 0x0DE6, 0x0E50, 0x0ED0, 0x0F20, 0x1040, 0x1090, 0x17E0, 0x1810, 0x1946,
   0x19D0, 0x1A80, 0x1A90, 0x1B50, 0x1BB0, 0x1C40, 0x1C50, 0xA620, 0xA8D0, 0xA900, 0xA9D0,
   0xA9F0, 0xAA50, 0xABF0, 0xFF10, 0x104A0, 0x10D30, 0x11066, 0x110F0, 0x11136, 0x111D0, 0x112F0,
   0x11450, 0x114D0, 0x11650, 0x116C0, 0x11730, 0x118E0, 0x11950, 0x11C50, 0x11D50, 0x11DA0,
   0x16A60, 0x16AC0, 0x16B50, 0x1D7CE, 0x1D7D8, 0x1D7E2, 0x1D7EC, 0x1D7F6, 0x1E140, 0x1E2F0,
   0x1E950, 0x1FBF0]

/-- The value of a decimal digit of any script. -/
def decimalDigit? (c : Char) : Option Nat :=
  digitZeros.findSome? fun start =>
    if start ≤ c.toNat ∧ c.toNat < start + 10 then some (c.toNat - start) else none

/-! ## Numbers -/

namespace Numeral

/-- Why a text is not read as an integer. -/
inductive Defect where
  | notANumber
  | oversized (digits : Nat)
deriving DecidableEq, Repr

/-- The ASCII blanks around a number.  The four separators `U+001C` to `U+001F`, blank elsewhere,
are none of them. -/
def isPadding (c : Char) : Bool := (9 ≤ c.toNat && c.toNat ≤ 13) || c == ' '

/-- One code point outside ASCII in plain form. -/
def plainChar (c : Char) : Char :=
  if c.toNat < 127 then c
  else if isBlank c then ' '
  else match decimalDigit? c with
    | some d => Nat.digitChar d
    | none => c

/-- A text in plain form, without the padding at its two ends. -/
def plainForm (t : Text) : Text :=
  let start := (t.map plainChar).dropWhile isPadding
  (start.reverse.dropWhile isPadding).reverse

/-- The text without its underscores, each of which has to stand between two digits. -/
def withoutUnderscores (afterDigit : Bool) : Text → Option Text
  | [] => some []
  | '_' :: rest =>
    match rest with
    | d :: _ => if afterDigit && d.isDigit then withoutUnderscores false rest else none
    | [] => none
  | c :: rest => (withoutUnderscores c.isDigit rest).map (c :: ·)

/-- The sign in front of a number, and what follows it. -/
def splitSign : Text → Bool × Text
  | '-' :: rest => (true, rest)
  | '+' :: rest => (false, rest)
  | t => (false, t)

/-- A run of digits up to the end of the text. -/
def isDigits (t : Text) : Bool := !t.isEmpty && t.all Char.isDigit

/-- The integer that a text spells. -/
def read (t : Text) : Except Defect Int :=
  match withoutUnderscores false (plainForm t) with
  | none => .error .notANumber
  | some plain =>
    let (negative, digits) := splitSign plain
    if !isDigits digits then .error .notANumber
    else if maxDigits < digits.length then .error (.oversized digits.length)
    else .ok (if negative then -(value digits : Int) else value digits)

end Numeral

namespace Binary64

open Numeral

/-- An exponent: nothing, or a letter `e`, a sign and at least one digit. -/
def readExponent? : Text → Option Int
  | [] => some 0
  | c :: rest =>
    let (negative, digits) := splitSign rest
    if (c == 'e' || c == 'E') && isDigits digits then
      some (if negative then -(value digits : Int) else value digits)
    else none

/-- An unsigned decimal with an optional point and exponent; a digit stands before or after the
point. -/
def readDecimal? (negative : Bool) (t : Text) : Option Binary64 :=
  let whole := t.takeWhile Char.isDigit
  let rest := t.dropWhile Char.isDigit
  let (fraction, rest) := match rest with
    | '.' :: rest => (rest.takeWhile Char.isDigit, rest.dropWhile Char.isDigit)
    | _ => ([], rest)
  if whole = [] ∧ fraction = [] then none
  else (readExponent? rest).map fun e =>
    ofDecimal negative (value (whole ++ fraction)) (e - fraction.length)

/-- The number that a text spells; `inf`, `infinity` and `nan` are accepted in any case. -/
def read? (t : Text) : Option Binary64 :=
  match withoutUnderscores false (plainForm t) with
  | none => none
  | some plain =>
    let (negative, body) := splitSign plain
    let name := body.map Char.toLower
    if name = "inf".toList ∨ name = "infinity".toList then some (.infinite negative)
    else if name = "nan".toList then some .nan
    else readDecimal? negative body

end Binary64

end FullTextSearch
