/-
# `FullTextSearch.Fault` — why a request has no answer.

Options never fail a search: whatever cannot be used falls back to a default with a `Warning`.  The
faults below are all the other ways in which a request ends without an answer, and `message` is the
only place that words them.

Readers of options repair some faults and pass on the others, and all that they look at is the
`Nature` of a fault: a conversion may complain about the value that it was given or about its type, a
value may break an assertion of its own, and everything else concerns no reader.
-/
import FullTextSearch.Number.Numeral

namespace FullTextSearch

/-- What a fault complains about. -/
inductive Nature where
  /-- A value that cannot be used, of a type that can. -/
  | value
  /-- A type that cannot be used. -/
  | type
  /-- An assertion that does not hold. -/
  | assertion
  | other
deriving DecidableEq, Repr

/-- The causes for which a request is refused. -/
inductive Fault where
  /-- The search string cannot be split into tokens; `location` is the offset of the first code
  point at which that is certain, or the length when the text ends too early. -/
  | malformedQuery (query : Text) (location : Nat)
  /-- A proximity distance has more digits than an integer may have. -/
  | oversizedNumber (digits : Nat)
  /-- An integer has more digits than may be written. -/
  | unwritableNumber
  /-- A token of a kind that the query language does not have. -/
  | unknownToken (kind : Text)
  /-- A weight is an integer beyond every finite floating point number. -/
  | weightOverflow
  /-- A headline is wanted of no document. -/
  | missingDocument
  /-- The columns of a select list are given by a value that holds no items. -/
  | notColumns (type : Text)
  /-- An item of a select list is not a text. -/
  | notText (index : Nat) (type : Text)
  /-- The settings name no database. -/
  | missingDatabase
  /-- The name of a variable holds an equals sign. -/
  | variableName
  /-- A variable holds a NUL, in its name or its value. -/
  | variableNul
  /-- A value of a kind of its own fails when it is asked for a text, a number or items. -/
  | raised (nature : Nature) (name message : Text)
deriving DecidableEq, Repr

/-- The wording of a fault. -/
def Fault.message : Fault → Text
  | .malformedQuery query _ => "malformed query string '".toList ++ query ++ ['\'']
  | .oversizedNumber digits =>
    "Exceeds the limit (".toList ++ Numeral.ofNat Numeral.maxDigits ++
      " digits) for integer string conversion: value has ".toList ++ Numeral.ofNat digits ++
      " digits; use sys.set_int_max_str_digits() to increase the limit".toList
  | .unwritableNumber =>
    "Exceeds the limit (".toList ++ Numeral.ofNat Numeral.maxDigits ++
      " digits) for integer string conversion; ".toList ++
      "use sys.set_int_max_str_digits() to increase the limit".toList
  | .unknownToken kind => "unknown token ".toList ++ kind
  | .weightOverflow => "int too large to convert to float".toList
  | .missingDocument => "a headline needs the document column name".toList
  | .notColumns type => ['\''] ++ type ++ "' object is not iterable".toList
  | .notText index type =>
    "sequence item ".toList ++ Numeral.ofNat index ++ ": expected str instance, ".toList ++ type ++
      " found".toList
  | .missingDatabase => "Missing DATABASE_URL".toList
  | .variableName => "illegal environment variable name".toList
  | .variableNul => "embedded null byte".toList
  | .raised _ _ message => message

namespace Fault

/-- What a fault complains about. -/
def nature : Fault → Nature
  | .oversizedNumber _ | .unwritableNumber | .missingDocument | .variableName | .variableNul => .value
  | .unknownToken _ | .notColumns _ | .notText .. => .type
  | .malformedQuery .. | .weightOverflow | .missingDatabase => .other
  | .raised nature .. => nature

/-- Whether a fault in the reader of a field refuses the field; any other ends the reading of all
options. -/
def refusesField (fault : Fault) : Bool := fault.nature == .value || fault.nature == .assertion

/-- Whether a fault only says that a value is no number. -/
def deniesNumber (fault : Fault) : Bool := fault.nature == .value || fault.nature == .type

end Fault

end FullTextSearch
