/-
# `FullTextSearch.Search.Assembly` — the statement of a search, and its execution.

The options are read first and the query is compiled once; every fragment is then built from the
compiled query.  A headline is refused where no document is named.

A search is one cursor that executes one statement without parameters: all that was typed is inside
the statement as string literals, so a percent sign in it stands for itself.
-/
import FullTextSearch.Search.Options
import FullTextSearch.Sql.Headline
import FullTextSearch.Sql.Ordering
import FullTextSearch.Sql.Statement

namespace FullTextSearch

/-- An order as the value that asks for it. -/
def OrderChoice.value : OrderChoice → Value
  | .unset => .null
  | .flag wanted => .bool wanted
  | .text list => .text list
  | .clauses entries => .list (entries.map .text)

namespace Search

/-! ## Headlines -/

/-- The name of the headline that options ask for; an empty name asks for none. -/
def headlineName? (settings : Settings) : HeadlineChoice → Option Text
  | .flag true => some settings.headlineName
  | .flag false => none
  | .named name => Text.given? (some name)

/-- The options of a headline as they were given to the search. -/
def headlineValue (options : SearchOptions) : Value :=
  match options.headlineOptions with
  | some entries => .mapping (entries.map fun (name, value) => (.text name, value))
  | none => .null

/-- The select list items of a search: its headline, if one is asked for. -/
def selectItems (settings : Settings) (document : Option Text) (compiled : Text)
    (options : SearchOptions) : Except Fault (List Text) :=
  match headlineName? settings options.withHeadline, Text.given? document with
  | none, _ => .ok []
  | some _, none => .error .missingDocument
  | some name, some document =>
    (Sql.headline document compiled (some name) none (headlineValue options)).map fun item => [item]

/-! ## Statements -/

section Validation

variable (lib : Validation) (settings : Settings)

/-- The statement of a search whose options are read. -/
def statementOf (document tsv : Option Text) (query : Text) (options : SearchOptions) :
    Outcome Statement := do
  let compiled ← Query.compile query
  let configuration := (Text.given? options.withConfiguration).or settings.textSearchConfig
  let condition ← Sql.predicate document tsv compiled configuration
  let selectItems ← selectItems settings document compiled options
  let ordering ←
    Sql.ordering lib settings options.order.value (.rankOptions options.rank) (some compiled)
  return {
    condition
    selectItems
    orderBy := ordering.clauses
    rank := ordering.rank
    queryText := Query.stripMarker compiled }

/-- The statement of a search. -/
def statement (document tsv : Option Text) (query : Text) (options : Value) : Outcome Statement := do
  statementOf lib settings document tsv query (← ofValue lib options)

/-! ## Execution -/

/-- What is asked of a connection. -/
inductive Call where
  | cursor
  | enter
  | execute (sql : Text)
  | fetchAll
  | exit
deriving DecidableEq, Repr

/-- The calls that run one statement. -/
def calls (sql : Text) : List Call := [.cursor, .enter, .execute sql, .fetchAll, .exit]

/-- The calls that run a search over a table. -/
def run (table : Text) (document tsv : Option Text) (query : Text)
    (columns : Except Fault (List Sql.SelectItem)) (options : Value) (includeRank : Bool) :
    Outcome (List Call) := do
  let statement ← statement lib settings document tsv query options
  let sql ← statement.toSql table (← columns) includeRank
  return calls sql

end Validation

end Search

end FullTextSearch
