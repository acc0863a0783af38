/-
# `FullTextSearch.Value` — option values before they are checked.

Options arrive from request parameters, so any of them may hold anything: plain values of every
kind, lists and mappings of values, and options that were checked before.  Checked search options
keep the options of their headline as plain values, which is why the two types are defined together.

Whatever else there is, fractions, sets, dates, objects of any class, is a `Foreign` value: no reader
knows its kind, so all that shows of it is what it answers when it is asked for a text, a number or
its items.  A value of a kind derived from one of the others counts as a value of that one.
-/
import FullTextSearch.Fault
import FullTextSearch.Rank.Options

namespace FullTextSearch

/-- An item of a select list before it is checked. -/
inductive Sql.SelectItem where
  | text (t : Text)
  /-- A value that is no text, by the name of its kind. -/
  | other (kind : Text)
deriving DecidableEq, Repr

/-- A value of a kind of its own.  Each of its answers may be a fault. -/
structure Foreign where
  /-- The name of the kind. -/
  kind : Text
  /-- Which value it is: as a key it is the same as itself and as no other value. -/
  identity : Nat
  /-- Its text on its own. -/
  text : Except Fault Text
  /-- Its text inside a larger value. -/
  display : Except Fault Text
  /-- The number that it is converted to. -/
  number : Except Fault Binary64
  /-- Its items, one after another. -/
  items : Except Fault (List Sql.SelectItem)

/-- The order that a search asks for. -/
inductive OrderChoice where
  /-- Nothing is asked for. -/
  | unset
  /-- No order at all where `false`, and nothing in particular where `true`. -/
  | flag (wanted : Bool)
  /-- A list of clauses in one text, separated by commas. -/
  | text (list : Text)
  /-- The clauses one by one. -/
  | clauses (entries : List Text)
deriving DecidableEq, Repr

/-- Whether a headline is wanted, and under which name. -/
inductive HeadlineChoice where
  | flag (wanted : Bool)
  | named (name : Text)
deriving DecidableEq, Repr

mutual

/-- A value of any kind. -/
inductive Value where
  | null
  | bool (b : Bool)
  | int (n : Int)
  | float (x : Binary64)
  | text (t : Text)
  | octets (bytes : List UInt8)
  | list (items : List Value)
  | tuple (items : List Value)
  /-- Keys and values in the order of insertion; no key comes twice. -/
  | mapping (entries : List (Value × Value))
  | function (f : RankFunction)
  | rankOptions (o : RankOptions)
  | searchOptions (o : SearchOptions)
  | other (o : Foreign)

/-- What a search asks for beside its query. -/
structure SearchOptions where
  order : OrderChoice
  rank : RankOptions
  withHeadline : HeadlineChoice
  headlineOptions : Option (List (Text × Value))
  withConfiguration : Option Text

end

/-- The options of a search that asks for nothing. -/
def SearchOptions.default : SearchOptions where
  order := .unset
  rank := {}
  withHeadline := .flag false
  headlineOptions := none
  withConfiguration := none

instance : Inhabited Value := ⟨.null⟩

instance : Inhabited SearchOptions := ⟨.default⟩

namespace Value

/-! ## Keys -/

mutual

/-- Whether two keys of a mapping are one key.  Numbers of all kinds are compared by value, so `1`,
`1.0` and `true` are one key; a ranking function is the key that its name is. -/
def sameKey : Value → Value → Bool
  | .null, .null => true
  | .bool b, .bool b' => b == b'
  | .bool b, .int n | .int n, .bool b => n == b.toInt
  | .bool b, .float x | .float x, .bool b => x.isInt b.toInt
  | .int n, .int n' => n == n'
  | .int n, .float x | .float x, .int n => x.isInt n
  | .float x, .float y => x.sameValue y
  | .text t, .text t' => t == t'
  | .text t, .function f | .function f, .text t => t == f.name
  | .function f, .function f' => f == f'
  | .octets o, .octets o' => o == o'
  | .tuple ts, .tuple ts' => sameKeys ts ts'
  | .other o, .other o' => o.identity == o'.identity
  | _, _ => false

/-- Whether two tuples of keys are one key. -/
def sameKeys : List Value → List Value → Bool
  | [], [] => true
  | v :: vs, w :: ws => sameKey v w && sameKeys vs ws
  | _, _ => false

end

/-- The mapping that writing a list of pairs in order leaves. -/
def ofPairs (pairs : List (Value × Value)) : Value := .mapping (Entries.ofPairs sameKey pairs)

/-- The value of a text key. -/
def field? (name : Text) (entries : List (Value × Value)) : Option Value :=
  Entries.get? sameKey (.text name) entries

/-- Behind an entry with another name the rest is searched. -/
theorem field?_text_cons (name key : Text) (v : Value) (rest : List (Value × Value)) :
    field? name ((.text key, v) :: rest) = if key = name then some v else field? name rest := by
  by_cases h : key = name
  · simp [field?, Entries.get?, sameKey, h]
  · simp [field?, Entries.get?, sameKey, h]

/-! ## Names of kinds -/

/-- The name of a value's kind. -/
def kind : Value → Text
  | .null => "NoneType".toList
  | .bool _ => "bool".toList
  | .int _ => "int".toList
  | .float _ => "float".toList
  | .text _ => "str".toList
  | .octets _ => "bytes".toList
  | .list _ => "list".toList
  | .tuple _ => "tuple".toList
  | .mapping _ => "dict".toList
  | .function _ => "RankFunction".toList
  | .rankOptions _ => "RankOptions".toList
  | .searchOptions _ => "SearchOptions".toList
  | .other o => o.kind

end Value

end FullTextSearch
