/-
# `FullTextSearch.Value.Coercion` — what values of fields are taken for.

Two conversions stand between a value that was given and a field that is checked.  Weights are
converted to numbers by the language: a number, a text that spells one, or a value that offers one.
Fields of other types are left to a library that checks them, which decodes JSON text and takes a
value for a text, an order, a headline or a mapping of names, or refuses it.  That library is the
parameter `Validation` of all readers of options.
-/
import FullTextSearch.Value
import FullTextSearch.Number.Reading

namespace FullTextSearch

namespace Value

/-- The text that ASCII octets spell. -/
def asciiText? (octets : List UInt8) : Option Text :=
  if octets.all (· < 128) then some (octets.map fun o => Char.ofNat o.toNat) else none

/-- The number that a value is taken for; `none` where it is no number.  An integer beyond every
finite number is a fault, and so is whatever goes wrong in a value of another kind. -/
def asNumber? : Value → Except Fault (Option Binary64)
  | .bool b => .ok (some (Binary64.ofInt b.toInt))
  | .int n =>
    match Binary64.ofInt n with
    | .infinite _ => .error .weightOverflow
    | x => .ok (some x)
  | .float x => .ok (some x)
  | .text t => .ok (Binary64.read? t)
  | .octets bytes => .ok ((asciiText? bytes).bind Binary64.read?)
  | .other o =>
    match o.number with
    | .ok x => .ok (some x)
    | .error fault => if fault.deniesNumber then .ok none else .error fault
  | _ => .ok none

end Value

/-- A library that checks fields of a type: what it takes a value for, or `none` where it refuses
it.  A null and a missing value of an optional field never reach it. -/
structure Validation where
  /-- The value that JSON text spells. -/
  decode? : Text → Option Value
  /-- The value that JSON text spells which is given as octets. -/
  decodeOctets? : List UInt8 → Option Value
  /-- A text. -/
  text? : Value → Option Text
  /-- A flag, a text or a list of texts. -/
  order? : Value → Option OrderChoice
  /-- A flag or a text. -/
  headline? : Value → Option HeadlineChoice
  /-- A mapping whose keys are texts. -/
  named? : Value → Option (List (Text × Value))
  /-- A text is taken for itself. -/
  text?_text : ∀ t, text? (.text t) = some t

end FullTextSearch
