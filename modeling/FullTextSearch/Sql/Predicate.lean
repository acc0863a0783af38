/-
# `FullTextSearch.Sql.Predicate` — string literals, and the condition that a document matches.

A literal is its text between single quotes, with every quote inside written twice.  The query text
stands in every fragment as one such literal inside a call of `to_tsquery`; the names of columns and
vectors are the caller's and are emitted as they are.
-/
import FullTextSearch.Query.Compiled
import FullTextSearch.Text.Case

namespace FullTextSearch.Sql

/-! ## Literals -/

/-- A text with every single quote written twice. -/
def doubleQuotes : Text → Text
  | [] => []
  | c :: rest => if c = '\'' then c :: c :: doubleQuotes rest else c :: doubleQuotes rest

/-- The string literal of a text. -/
def literal (t : Text) : Text := ['\''] ++ doubleQuotes t ++ ['\'']

/-! ## The match predicate -/

/-- The query as the database reads it, after the literal of a configuration, if any. -/
def tsqueryCall (query : Text) (configuration : Text) : Except Fault Text :=
  (Query.normalize query).map fun text =>
    "to_tsquery(".toList ++ configuration ++ literal text ++ [')']

/-- The schema of the built-in configurations. -/
def catalog : Text := "pg_catalog.".toList

/-- A configuration in lower case, with its schema. -/
def qualified (configuration : Text) : Text :=
  let name := configuration.lower
  if catalog.isPrefixOf name then name else catalog ++ name

/-- The first argument of `to_tsquery` that names a configuration, with the comma after it. -/
def configurationArgument (configuration : Option Text) : Text :=
  match Text.given? configuration with
  | some name => literal (qualified name) ++ ", ".toList
  | none => []

/-- The vector to match: the given one, or the document's own. -/
def vector (document tsv : Option Text) : Text :=
  match Text.given? tsv with
  | some tsv => tsv
  | none => "to_tsvector(".toList ++ document.getD "None".toList ++ [')']

/-- The condition that a document matches a query. -/
def predicate (document tsv : Option Text) (query : Text) (configuration : Option Text) :
    Except Fault Text :=
  (tsqueryCall query (configurationArgument configuration)).map fun call =>
    ['('] ++ vector document tsv ++ " @@ ".toList ++ call ++ [')']

end FullTextSearch.Sql
