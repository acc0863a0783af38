/-
# `FullTextSearch.Sql.Statement` — the parts of a search and the `SELECT` they make.

A statement keeps its fragments apart until a table and its columns are known.  The select list
holds the columns, the items of the search (its headline) and, where it is asked for and there is
one, the rank expression.
-/
import FullTextSearch.Fault
import FullTextSearch.Value

namespace FullTextSearch

/-- The fragments of a search. -/
structure Statement where
  /-- The condition that a document matches. -/
  condition : Text
  /-- Select list items beside the columns. -/
  selectItems : List Text := []
  /-- The `ORDER BY` clauses, in order. -/
  orderBy : List Text := []
  /-- The rank expression, where a clause orders by it. -/
  rank : Option Text := none
  /-- The query as the database reads it, for logs. -/
  queryText : Text := []
deriving DecidableEq, Repr

namespace Sql

/-- The item that a value gives. -/
def SelectItem.ofValue : Value → SelectItem
  | .text t => .text t
  | .function f => .text f.name
  | v => .other v.kind

/-- The columns that a value gives: the items of a list or a tuple, the keys of a mapping, the
octets or code points of a string, the fields of options, and the items of a value that has some of
its own. -/
def columns : Value → Except Fault (List SelectItem)
  | .text t => .ok (t.map fun c => .text [c])
  | .function f => .ok (f.name.map fun c => .text [c])
  | .octets bytes => .ok (bytes.map fun b => SelectItem.ofValue (.int b.toNat))
  | .list items | .tuple items => .ok (items.map SelectItem.ofValue)
  | .mapping entries => .ok (entries.map fun (k, _) => SelectItem.ofValue k)
  | .rankOptions _ => .ok (List.replicate 4 (SelectItem.ofValue (.tuple [])))
  | .searchOptions _ => .ok (List.replicate 5 (SelectItem.ofValue (.tuple [])))
  | .other o => o.items
  | v => .error (.notColumns v.kind)

/-- The texts of a select list whose first item has an index; the first item that is no text is a
fault. -/
def itemTexts (index : Nat) : List SelectItem → Except Fault (List Text)
  | [] => .ok []
  | .text t :: rest => (itemTexts (index + 1) rest).map (t :: ·)
  | .other kind :: _ => .error (.notText index kind)

/-- All columns of a table. -/
def allColumns : List SelectItem := [.text ['*']]

end Sql

namespace Statement

/-- The rank expression as a select list item. -/
def rankItem (s : Statement) : List Text :=
  match s.rank with
  | some (c :: rest) => [c :: rest ++ " AS rank".toList]
  | _ => []

/-- The `SELECT` over a table. -/
def toSql (s : Statement) (table : Text) (columns : List Sql.SelectItem) (includeRank : Bool) :
    Except Fault Text :=
  let added := s.selectItems ++ if includeRank then s.rankItem else []
  (Sql.itemTexts 0 (columns ++ added.map .text)).map fun items =>
    "SELECT ".toList ++ List.intercalate ", ".toList items ++
      "\nFROM ".toList ++ table ++ "\nWHERE ".toList ++ s.condition ++
      if s.orderBy = [] then [] else "\nORDER BY ".toList ++ List.intercalate ", ".toList s.orderBy

end Statement

end FullTextSearch
