/-
# `FullTextSearch.Value.Json` — values written as JSON text.

The reader is strict: no comments, no trailing commas, no control characters inside strings, no lone
surrogates, nothing but blanks after the value.  It extends the format by the numbers `NaN`,
`Infinity` and `-Infinity`.  A number with a point or an exponent is a floating point number even
when it is whole.  In an object a repeated name keeps its first place and takes its last value.

Recursion is bounded by the length of the text; the nesting of containers is bounded by
`maxNesting`, where an empty container does not count.
-/
import FullTextSearch.Value
import FullTextSearch.Number.Reading

namespace FullTextSearch.Json

/-- How deep containers that are not empty may be nested. -/
def maxNesting : Nat := 200

/-- The blanks between the parts of a JSON text. -/
def isGap (c : Char) : Bool := c == ' ' || c == '\t' || c == '\n' || c == '\r'

/-- The text from its first part on. -/
def skipGap (t : Text) : Text := t.dropWhile isGap

/-- What follows an expected beginning. -/
def expect? (start : Text) (t : Text) : Option Text :=
  if start.isPrefixOf t then some (t.drop start.length) else none

/-! ## Strings -/

/-- The value of a hexadecimal digit. -/
def hexDigit? (c : Char) : Option Nat :=
  if '0' ≤ c ∧ c ≤ '9' then some (c.toNat - '0'.toNat)
  else if 'a' ≤ c ∧ c ≤ 'f' then some (c.toNat - 'a'.toNat + 10)
  else if 'A' ≤ c ∧ c ≤ 'F' then some (c.toNat - 'A'.toNat + 10)
  else none

/-- The value of four hexadecimal digits. -/
def hexUnit? (a b c d : Char) : Option Nat := do
  return (← hexDigit? a) * 4096 + (← hexDigit? b) * 256 + (← hexDigit? c) * 16 + (← hexDigit? d)

/-- The code point of an escape of one letter. -/
def escaped? : Char → Option Char
  | '"' => some '"'
  | '\\' => some '\\'
  | '/' => some '/'
  | 'b' => some (Char.ofNat 8)
  | 'f' => some (Char.ofNat 12)
  | 'n' => some '\n'
  | 'r' => some '\r'
  | 't' => some '\t'
  | _ => none

/-- The first half of a pair of surrogates. -/
def isHighSurrogate (n : Nat) : Bool := 0xD800 ≤ n && n < 0xDC00

/-- The second half of a pair of surrogates. -/
def isLowSurrogate (n : Nat) : Bool := 0xDC00 ≤ n && n < 0xE000

/-- The code point of a pair of surrogates. -/
def ofSurrogates (high low : Nat) : Char :=
  Char.ofNat (0x10000 + (high - 0xD800) * 0x400 + (low - 0xDC00))

/-- A string after its opening quote, and what follows its closing quote. -/
def readString : Text → Option (Text × Text)
  | [] => none
  | '"' :: rest => some ([], rest)
  | '\\' :: 'u' :: a :: b :: c :: d :: rest =>
    match hexUnit? a b c d with
    | none => none
    | some n =>
      if isHighSurrogate n then
        match rest with
        | '\\' :: 'u' :: a :: b :: c :: d :: rest =>
          match hexUnit? a b c d with
          | none => none
          | some m =>
            if isLowSurrogate m then
              (readString rest).map fun (s, rest) => (ofSurrogates n m :: s, rest)
            else none
        | _ => none
      else if isLowSurrogate n then none
      else (readString rest).map fun (s, rest) => (Char.ofNat n :: s, rest)
  | '\\' :: e :: rest =>
    match escaped? e with
    | none => none
    | some c => (readString rest).map fun (s, rest) => (c :: s, rest)
  | c :: rest =>
    if c.toNat < 0x20 then none else (readString rest).map fun (s, rest) => (c :: s, rest)

/-! ## Numbers -/

/-- The digits at the start of a text, at least one, and what follows them. -/
def readDigits? (t : Text) : Option (Text × Text) :=
  let digits := t.takeWhile Char.isDigit
  if digits = [] then none else some (digits, t.dropWhile Char.isDigit)

/-- The digits after a point, where there is one. -/
def readFraction? : Text → Option (Option Text × Text)
  | '.' :: rest => (readDigits? rest).map fun (digits, rest) => (some digits, rest)
  | t => some (none, t)

/-- The exponent, where there is one. -/
def readExponent? : Text → Option (Option Int × Text)
  | c :: rest =>
    if c == 'e' || c == 'E' then
      let (negative, rest) := Numeral.splitSign rest
      (readDigits? rest).map fun (digits, rest) =>
        let n : Int := Numeral.value digits
        (some (if negative then -n else n), rest)
    else some (none, c :: rest)
  | [] => some (none, [])

/-- A number after its sign.  Zero is the only number that starts with the digit zero, and the digits
before the point are no more than an integer may have. -/
def readUnsigned? (negative : Bool) (t : Text) : Option (Value × Text) := do
  let (whole, rest) ← readDigits? t
  if whole.head? = some '0' ∧ whole ≠ ['0'] then none
  if Numeral.maxDigits < whole.length then none
  let (fraction, rest) ← readFraction? rest
  let (exponent, rest) ← readExponent? rest
  match fraction, exponent with
  | none, none =>
    let n : Int := Numeral.value whole
    return (.int (if negative then -n else n), rest)
  | _, _ =>
    let fraction := fraction.getD []
    let e := exponent.getD 0 - fraction.length
    return (.float (Binary64.ofDecimal negative (Numeral.value (whole ++ fraction)) e), rest)

/-- A number, or the name of one of the three numbers that digits do not spell. -/
def readNumber? : Text → Option (Value × Text)
  | 'N' :: rest => (expect? "aN".toList rest).map fun rest => (.float .nan, rest)
  | 'I' :: rest => (expect? "nfinity".toList rest).map fun rest => (.float (.infinite false), rest)
  | '-' :: 'I' :: rest =>
    (expect? "nfinity".toList rest).map fun rest => (.float (.infinite true), rest)
  | '-' :: rest => readUnsigned? true rest
  | t => readUnsigned? false t

/-! ## Values -/

mutual

/-- The value at the start of a text, and what follows it.  `nesting` is how many containers that
are not empty may still be opened. -/
def readValue? : (fuel nesting : Nat) → Text → Option (Value × Text)
  | 0, _, _ => none
  | fuel + 1, nesting, t =>
    match skipGap t with
    | [] => none
    | '"' :: rest => (readString rest).map fun (s, rest) => (.text s, rest)
    | 'n' :: rest => (expect? "ull".toList rest).map fun rest => (.null, rest)
    | 't' :: rest => (expect? "rue".toList rest).map fun rest => (.bool true, rest)
    | 'f' :: rest => (expect? "alse".toList rest).map fun rest => (.bool false, rest)
    | '[' :: rest =>
      match skipGap rest, nesting with
      | ']' :: rest, _ => some (.list [], rest)
      | _, 0 => none
      | rest, nesting + 1 =>
        (readItems? fuel nesting rest).map fun (items, rest) => (.list items, rest)
    | '{' :: rest =>
      match skipGap rest, nesting with
      | '}' :: rest, _ => some (.mapping [], rest)
      | _, 0 => none
      | rest, nesting + 1 =>
        (readMembers? fuel nesting rest).map fun (pairs, rest) => (Value.ofPairs pairs, rest)
    | t => readNumber? t

/-- The items of a list up to its closing bracket. -/
def readItems? : (fuel nesting : Nat) → Text → Option (List Value × Text)
  | 0, _, _ => none
  | fuel + 1, nesting, t =>
    match readValue? fuel nesting t with
    | none => none
    | some (item, rest) =>
      match skipGap rest with
      | ']' :: rest => some ([item], rest)
      | ',' :: rest =>
        (readItems? fuel nesting rest).map fun (items, rest) => (item :: items, rest)
      | _ => none

/-- The members of an object up to its closing brace. -/
def readMembers? : (fuel nesting : Nat) → Text → Option (List (Value × Value) × Text)
  | 0, _, _ => none
  | fuel + 1, nesting, t =>
    match skipGap t with
    | '"' :: rest =>
      match readString rest with
      | none => none
      | some (name, rest) =>
        match skipGap rest with
        | ':' :: rest =>
          match readValue? fuel nesting rest with
          | none => none
          | some (value, rest) =>
            match skipGap rest with
            | '}' :: rest => some ([(.text name, value)], rest)
            | ',' :: rest =>
              (readMembers? fuel nesting rest).map fun (members, rest) =>
                ((.text name, value) :: members, rest)
            | _ => none
        | _ => none
    | _ => none

end

/-- The value that a whole text spells.  Every step of the reader consumes a code point or is
followed by one that does, so twice the length bounds the steps. -/
def read? (t : Text) : Option Value :=
  match readValue? (2 * t.length + 2) maxNesting t with
  | some (value, rest) => if skipGap rest = [] then some value else none
  | none => none

end FullTextSearch.Json
