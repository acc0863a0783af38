/-
# `FullTextSearch.Rank.Expression` — the call that scores a document.

Ranking functions score positive terms only: a query of negated terms alone ranks every match zero.

A call has the four weights in an array, if any are given.  A label that is not listed stands there as
the integer zero, which is written `0`; listed weights are floating point numbers, so a listed zero is
written `0.0`.
-/
import FullTextSearch.Settings
import FullTextSearch.Sql.Predicate
import FullTextSearch.Value.Display

namespace FullTextSearch

/-- The weight of a label in an array; one that is not listed weighs nothing. -/
def Weights.arrayItem (weights : Weights) (label : WeightLabel) : Value :=
  match weights.get? label with
  | some w => .float w
  | none => .int 0

/-- The four weights in the order of the database, where any are given. -/
def RankOptions.weightArray (o : RankOptions) : Option (List Value) :=
  o.weights.map fun weights => WeightLabel.arrayOrder.map weights.arrayItem

namespace Rank

/-- The weight array of a call with the comma after it, where any weights are given. -/
def weightsArgument (options : RankOptions) : Except Fault Text :=
  match options.weightArray with
  | some weights =>
    (weights.mapM Value.plain).map fun texts =>
      "array[".toList ++ List.intercalate ", ".toList texts ++ "], ".toList
  | none => .ok []

/-- The normalization of a call. -/
def normalizationText (settings : Settings) (options : RankOptions) : Except Fault Text :=
  Value.displayInteger (options.normalization.getD settings.defaultNormalization)

/-- The call that scores a vector against a query. -/
def expression (settings : Settings) (tsv query : Text) (options : RankOptions) :
    Except Fault Text := do
  let weights ← weightsArgument options
  let call ← Sql.tsqueryCall query []
  let normalization ← normalizationText settings options
  return options.function.name ++ ['('] ++ weights ++ tsv ++ ", ".toList ++ call ++ ", ".toList ++
    normalization ++ [')']

/-- The `ORDER BY` clause that lists the best matches first. -/
def descending (settings : Settings) (tsv query : Text) (options : RankOptions) :
    Except Fault Text :=
  (expression settings tsv query options).map (· ++ " DESC".toList)

end Rank

end FullTextSearch
