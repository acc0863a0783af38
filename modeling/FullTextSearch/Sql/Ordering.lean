/-
# `FullTextSearch.Sql.Ordering` — the `ORDER BY` clauses of a search.

An order is a list of entries.  An entry whose first word is `rank`, in any case, orders by the
score of the match: it becomes the rank expression with the rest of the entry, or with `DESC`.
Every other entry is a clause as it is.  Without a query there is nothing to score, and a rank entry
stands for the default order, whose clauses are then taken as they are.

The rank options are read only where a score is needed, and once for all rank entries, so they give
their warnings once or not at all.
-/
import FullTextSearch.Rank.Expression
import FullTextSearch.Rank.Reading

namespace FullTextSearch.Sql

/-! ## Entries -/

/-- The entries of an order, which any value may be: the items of a list go by their texts. -/
def entries (settings : Settings) : Value → Except Fault (List Text)
  | .bool false => .ok []
  | .text list => .ok list.commaList
  | .function f => .ok f.name.commaList
  | .list items | .tuple items => items.mapM Value.plain
  | _ => .ok settings.defaultOrder

/-- Entries without the blanks around them, and without those that are blank. -/
def trimmed (entries : List Text) : List Text :=
  (entries.map Text.trim).filter fun entry => !entry.isEmpty

/-- Whether an entry orders by rank. -/
def isRankEntry (entry : Text) : Bool :=
  match entry.words with
  | first :: _ => first.lower == "rank".toList
  | [] => false

/-- The direction in which a rank entry orders. -/
def direction (entry : Text) : Text :=
  match entry.words.tail with
  | [] => "DESC".toList
  | words => Text.joinWords words

/-! ## Clauses -/

/-- The clauses of one entry, given the rank expression, if there is a query. -/
def entryClauses (settings : Settings) (score : Option Text) (entry : Text) : List Text :=
  if isRankEntry entry then
    match score with
    | some score => [score ++ [' '] ++ direction entry]
    | none => settings.defaultOrder
  else [entry]

/-- The clauses of a search, and the rank expression if one of them orders by it. -/
structure Ordering where
  clauses : List Text
  rank : Option Text
deriving DecidableEq, Repr

/-- The compiled form of a query that may be missing; an empty query is missing too. -/
def compileGiven (query : Option Text) : Except Fault Text :=
  match Text.given? query with
  | some query => Query.compile query
  | none => .ok []

section Validation

variable (lib : Validation) (settings : Settings)

/-- The rank expression that any value of options gives. -/
def rankExpression (tsv query : Text) (rank : Value) : Outcome Text := do
  Rank.expression settings tsv query (← Rank.ofValue lib rank)

/-- The rank expression of compiled query text. -/
def score (rank : Value) (compiled : Text) : Outcome Text := do
  let options ← Rank.ofValue lib rank
  let tsv := (Text.given? options.tsv).getD settings.defaultTsv
  Rank.expression settings tsv compiled options

/-- The ordering that an order asks for. -/
def ordering (order rank : Value) (query : Option Text) : Outcome Ordering := do
  let compiled ← compileGiven query
  let given ← entries settings order
  let entries := trimmed given
  let score ←
    if entries.any isRankEntry ∧ Query.stripMarker compiled ≠ [] then
      some <$> score lib settings rank compiled
    else pure none
  return { clauses := entries.flatMap (entryClauses settings score), rank := score }

end Validation

end FullTextSearch.Sql
