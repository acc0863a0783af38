/-
# `FullTextSearch.Value.Standard` — a validation by the documented coercions.

`Validation` is a parameter of this library's readers; this is the one that programs run with.  A
field that wants a text also takes octets that spell one in UTF-8.  A flag is also a number equal to
zero or one, or octets that spell one of a few words.  A field that takes several types takes a value
for the first that is its own, then for a flag, for a text, for a list.  JSON text is read strictly
(`Json.read?`), as octets where they are UTF-8.
-/
import FullTextSearch.Value.Coercion
import FullTextSearch.Value.Json

namespace FullTextSearch

/-- The text that octets spell in UTF-8. -/
def Text.ofUtf8? (octets : List UInt8) : Option Text :=
  (String.fromUTF8? octets.toByteArray).map String.toList

namespace Value

/-! ## Single types -/

/-- The text that a value is taken for. -/
def asText? : Value → Option Text
  | .text t => some t
  | .octets bytes => Text.ofUtf8? bytes
  | .function f => some f.name
  | _ => none

/-- The truth value that a word stands for, in any case. -/
def flagOfWord? (word : Text) : Option Bool :=
  let word := word.capitals
  if word ∈ ["1", "T", "TRUE", "Y", "YES", "ON"].map String.toList then some true
  else if word ∈ ["0", "F", "FALSE", "N", "NO", "OFF"].map String.toList then some false
  else none

/-- The truth value that a value other than a text is taken for. -/
def asFlag? : Value → Option Bool
  | .bool b => some b
  | .int n => if n = 0 then some false else if n = 1 then some true else none
  | .float x => if x.isInt 0 then some false else if x.isInt 1 then some true else none
  | .octets bytes => (Text.ofUtf8? bytes).bind flagOfWord?
  | _ => none

/-- The items of a list or a tuple. -/
def items? : Value → Option (List Value)
  | .list items | .tuple items => some items
  | _ => none

/-! ## Several types -/

/-- The order that a value is taken for. -/
def asOrder? : Value → Option OrderChoice
  | .text t => some (.text t)
  | v =>
    ((v.asFlag?.map OrderChoice.flag).or (v.asText?.map .text)).or
      ((items? v).bind fun items => (items.mapM asText?).map .clauses)

/-- The headline that a value is taken for. -/
def asHeadline? : Value → Option HeadlineChoice
  | .text t => some (.named t)
  | v => (v.asFlag?.map HeadlineChoice.flag).or (v.asText?.map .named)

/-- An entry whose key is a text. -/
def namedEntry? (entry : Value × Value) : Option (Text × Value) :=
  entry.1.asText?.map fun name => (name, entry.2)

/-- The mapping of names that a value is taken for. -/
def asNamed? : Value → Option (List (Text × Value))
  | .mapping entries => (entries.mapM namedEntry?).map (Entries.ofPairs (· == ·))
  | _ => none

end Value

/-- The validation that programs run with. -/
def Validation.standard : Validation where
  decode? := Json.read?
  decodeOctets? := fun octets => (Text.ofUtf8? octets).bind Json.read?
  text? := Value.asText?
  order? := Value.asOrder?
  headline? := Value.asHeadline?
  named? := Value.asNamed?
  text?_text := fun _ => rfl

end FullTextSearch
