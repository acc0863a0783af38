/-
# `FullTextSearch.Value.Display` — the text of a value.

`display` writes a value as it stands inside a larger one: texts between quotes, lists in brackets,
a tuple of one item with a comma, mappings in braces.  `plain` writes it on its own, which differs
for texts (as they are), ranking functions, checked options and values of other kinds only.

An integer of too many digits has no text, and neither has a value that holds one: the first fault in
the order of writing is that of the whole.
-/
import FullTextSearch.Value
import FullTextSearch.Number.Shortest
import FullTextSearch.Text.Quoted

namespace FullTextSearch.Value

/-! ## Parts of a text -/

/-- The text of an integer. -/
def displayInteger (n : Int) : Except Fault Text :=
  if Numeral.Writable n then .ok (Numeral.ofInt n) else .error .unwritableNumber

/-- Numbers are written positionally from `0.0001` up to sixteen digits before the point, and with
an exponent of at least two digits outside. -/
def numberLayout : Binary64.Layout where
  positionalFrom := -4
  positionalTo := 16
  exponentDigits := 2

/-- The text of a number. -/
def displayNumber (x : Binary64) : Text := x.write numberLayout

/-- The words for the two truth values. -/
def displayBool (b : Bool) : Text := if b then "True".toList else "False".toList

/-- The name by which a ranking function goes on its own. -/
def functionName (f : RankFunction) : Text :=
  "RankFunction.".toList ++ f.name.capitals

/-- A ranking function with its name in the database. -/
def displayFunction (f : RankFunction) : Text :=
  ['<'] ++ functionName f ++ ": ".toList ++ f.name.quoted ++ ['>']

/-- Items separated by commas. -/
def commaSeparated (items : List Text) : Text := List.intercalate ", ".toList items

/-- A text inside an optional value. -/
def displayText? : Option Text → Text
  | none => "None".toList
  | some t => t.quoted

/-- A named field. -/
def displayField (name : String) (value : Text) : Text := name.toList ++ ['='] ++ value

/-! ## Checked options -/

/-- The weights of a ranking, as a mapping. -/
def displayWeights (weights : Weights) : Text :=
  ['{'] ++ commaSeparated (weights.entries.map fun (label, w) =>
    Text.quoted [label.letter] ++ ": ".toList ++ displayNumber w) ++ ['}']

/-- The fields of rank options. -/
def rankFields (o : RankOptions) : Except Fault (List Text) := do
  let normalization ← o.normalization.elim (pure "None".toList) displayInteger
  return [displayField "function" (displayFunction o.function),
    displayField "weights" (o.weights.elim "None".toList displayWeights),
    displayField "normalization" normalization,
    displayField "tsv" (displayText? o.tsv)]

/-- Rank options with the name of their kind. -/
def displayRankOptions (o : RankOptions) : Except Fault Text :=
  (rankFields o).map fun fields => "RankOptions(".toList ++ commaSeparated fields ++ [')']

/-- The order that a search asks for. -/
def displayOrder : OrderChoice → Text
  | .unset => "None".toList
  | .flag b => displayBool b
  | .text t => t.quoted
  | .clauses entries => ['['] ++ commaSeparated (entries.map Text.quoted) ++ [']']

/-- The headline that a search asks for. -/
def displayHeadline : HeadlineChoice → Text
  | .flag b => displayBool b
  | .named t => t.quoted

/-! ## Values -/

mutual

/-- A value inside a larger one. -/
def display : Value → Except Fault Text
  | .null => .ok "None".toList
  | .bool b => .ok (displayBool b)
  | .int n => displayInteger n
  | .float x => .ok (displayNumber x)
  | .text t => .ok t.quoted
  | .octets bytes => .ok (Text.quotedOctets bytes)
  | .list items =>
    (displayItems items).map fun shown => ['['] ++ commaSeparated shown ++ [']']
  | .tuple items =>
    (displayItems items).map fun shown =>
      ['('] ++ commaSeparated shown ++ (if shown.length = 1 then [','] else []) ++ [')']
  | .mapping entries =>
    (displayEntries entries).map fun shown => ['{'] ++ commaSeparated shown ++ ['}']
  | .function f => .ok (displayFunction f)
  | .rankOptions o => displayRankOptions o
  | .searchOptions o =>
    (searchFields o).map fun fields => "SearchOptions(".toList ++ commaSeparated fields ++ [')']
  | .other o => o.display

/-- The items of a list. -/
def displayItems : List Value → Except Fault (List Text)
  | [] => .ok []
  | v :: rest => do
    let item ← display v
    let items ← displayItems rest
    return item :: items

/-- The entries of a mapping. -/
def displayEntries : List (Value × Value) → Except Fault (List Text)
  | [] => .ok []
  | (k, v) :: rest => do
    let key ← display k
    let value ← display v
    let entries ← displayEntries rest
    return (key ++ ": ".toList ++ value) :: entries

/-- The options of a headline. -/
def displayNamed : List (Text × Value) → Except Fault (List Text)
  | [] => .ok []
  | (k, v) :: rest => do
    let value ← display v
    let entries ← displayNamed rest
    return (k.quoted ++ ": ".toList ++ value) :: entries

/-- The fields of search options. -/
def searchFields : SearchOptions → Except Fault (List Text)
  | ⟨order, rank, withHeadline, none, withConfiguration⟩ => do
    let rank ← displayRankOptions rank
    return [displayField "order" (displayOrder order), displayField "rank" rank,
      displayField "with_headline" (displayHeadline withHeadline),
      displayField "headline_options" "None".toList,
      displayField "with_configuration" (displayText? withConfiguration)]
  | ⟨order, rank, withHeadline, some entries, withConfiguration⟩ => do
    let rank ← displayRankOptions rank
    let entries ← displayNamed entries
    return [displayField "order" (displayOrder order), displayField "rank" rank,
      displayField "with_headline" (displayHeadline withHeadline),
      displayField "headline_options" (['{'] ++ commaSeparated entries ++ ['}']),
      displayField "with_configuration" (displayText? withConfiguration)]

end

/-- A value on its own. -/
def plain : Value → Except Fault Text
  | .text t => .ok t
  | .function f => .ok (functionName f)
  | .rankOptions o => (rankFields o).map (List.intercalate [' '])
  | .searchOptions o => (searchFields o).map (List.intercalate [' '])
  | .other o => o.text
  | v => display v

/-! ## Small lemmas -/

/-- An integer has a text exactly if it is written. -/
theorem displayInteger_eq_ok_iff {n : Int} {t : Text} :
    displayInteger n = .ok t ↔ Numeral.Writable n ∧ t = Numeral.ofInt n := by
  rw [displayInteger]
  split
  · next h => simp [h, eq_comm]
  · next h => simp [h]

end FullTextSearch.Value
