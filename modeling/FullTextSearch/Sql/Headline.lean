/-
# `FullTextSearch.Sql.Headline` — excerpts with the matches marked.

A headline is a select list item with a name of its own.  Its options reach the database as one
string literal of assignments in order; every key and every value of them needs a text.  The
configuration is emitted as it is, so a string constant has to bring its own quotes.
-/
import FullTextSearch.Sql.Predicate
import FullTextSearch.Value.Display

namespace FullTextSearch.Sql

/-! ## Options -/

/-- The options of a headline as names and texts. -/
abbrev HeadlineOptions := List (Text × Text)

/-- An entry as a name and a text. -/
def entryTexts (entry : Value × Value) : Except Fault (Text × Text) := do
  let name ← entry.1.plain
  let value ← entry.2.plain
  return (name, value)

/-- The headline options that any value gives: those of a mapping, and none otherwise. -/
def HeadlineOptions.ofValue : Value → Except Fault HeadlineOptions
  | .mapping entries => entries.mapM entryTexts
  | _ => .ok []

/-- Assignments in order, separated by commas. -/
def assignments (options : HeadlineOptions) : Text :=
  List.intercalate ", ".toList (options.map fun (name, value) => name ++ " = ".toList ++ value)

/-- The last argument of `ts_headline`, with the comma before it. -/
def optionsArgument (options : HeadlineOptions) : Text :=
  if options = [] then [] else ", ".toList ++ literal (assignments options)

/-! ## The select list item -/

/-- The select list item of a headline: its options are written before the query is. -/
def headline (document query : Text) (name configuration : Option Text) (options : Value) :
    Except Fault Text := do
  let options ← HeadlineOptions.ofValue options
  let call ← tsqueryCall query []
  let first := match Text.given? configuration with
    | some configuration => configuration ++ ", ".toList
    | none => []
  return "ts_headline(".toList ++ first ++ document ++ ", ".toList ++ call ++
    optionsArgument options ++ ") AS ".toList ++ (Text.given? name).getD "headline".toList

end FullTextSearch.Sql
