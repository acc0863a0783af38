/-
# `FullTextSearch.Rank.Options` — how matches are ranked.

The ranking function, a weight for each of the four labels that lexemes of a `tsvector` carry, a
normalization bit mask and the vector to rank.  What is absent is left to the database or to the
settings; as soon as any weights are given, a label that is not listed weighs nothing.

Weights are written one after another and clamped on the way, so `Weights` carries what every row of
writes keeps: no label comes twice, and every weight is one that the clamp leaves as it is.
-/
import FullTextSearch.Entries
import FullTextSearch.Number.Binary64
import FullTextSearch.Text.Case

namespace FullTextSearch

/-! ## Functions and labels -/

/-- The ranking functions of the database. -/
inductive RankFunction where
  /-- Ranking by the frequency of the matching lexemes. -/
  | frequency
  /-- Ranking by cover density, the proximity of the matching lexemes. -/
  | coverDensity
deriving DecidableEq, Repr

/-- The name of a ranking function in the database. -/
def RankFunction.name : RankFunction → Text
  | .frequency => "ts_rank".toList
  | .coverDensity => "ts_rank_cd".toList

/-- The ranking function of a name; names are compared exactly. -/
def RankFunction.ofName? (name : Text) : Option RankFunction :=
  if name = RankFunction.frequency.name then some .frequency
  else if name = RankFunction.coverDensity.name then some .coverDensity
  else none

/-- The labels of the lexemes in a `tsvector`. -/
inductive WeightLabel where
  | a
  | b
  | c
  | d
deriving DecidableEq, Repr

namespace WeightLabel

/-- The letter of a label. -/
def letter : WeightLabel → Char
  | .a => 'A'
  | .b => 'B'
  | .c => 'C'
  | .d => 'D'

/-- The label of a text: one letter, in either case. -/
def ofText? (t : Text) : Option WeightLabel :=
  match t.capitals with
  | ['A'] => some .a
  | ['B'] => some .b
  | ['C'] => some .c
  | ['D'] => some .d
  | _ => none

/-- The labels in the order in which the database expects their weights. -/
def arrayOrder : List WeightLabel := [.d, .c, .b, .a]

end WeightLabel

/-! ## Weights -/

/-- Weights by label, in the order in which the labels first came. -/
@[ext]
structure Weights where
  entries : List (WeightLabel × Binary64)
  /-- No label comes twice. -/
  labels : (entries.map Prod.fst).Nodup
  /-- Every weight lies in the unit interval. -/
  clamped : ∀ entry ∈ entries, entry.2.clampUnit = entry.2
deriving DecidableEq, Repr

namespace Weights

/-- No weights yet. -/
def empty : Weights where
  entries := []
  labels := List.nodup_nil
  clamped := List.forall_mem_nil _

/-- The weights after writing a number to a label: it is clamped first. -/
def write (weights : Weights) (label : WeightLabel) (x : Binary64) : Weights where
  entries := Entries.put (· == ·) label x.clampUnit weights.entries
  labels := Entries.nodup_put weights.labels label x.clampUnit
  clamped := by
    intro entry hentry
    rcases Entries.mem_put hentry with rfl | hold
    · exact Binary64.clampUnit_clampUnit x
    · exact weights.clamped entry hold

/-- The weight of a label, where it is listed. -/
def get? (weights : Weights) (label : WeightLabel) : Option Binary64 := weights.entries.lookup label

/-- The weights that numbers leave which are written in order. -/
def ofPairs (pairs : List (WeightLabel × Binary64)) : Weights :=
  pairs.foldl (fun weights pair => weights.write pair.1 pair.2) empty

end Weights

/-! ## Options -/

/-- How matches are ranked; a field that is `none` was not given. -/
structure RankOptions where
  function : RankFunction := .frequency
  weights : Option Weights := none
  normalization : Option Int := none
  tsv : Option Text := none
deriving DecidableEq, Repr

/-! ## Small lemmas -/

/-- A label is read from its letter alone, in either case. -/
theorem WeightLabel.ofText?_eq_some_iff {t : Text} {label : WeightLabel} :
    WeightLabel.ofText? t = some label ↔ t.capitals = [label.letter] := by
  rw [WeightLabel.ofText?]
  constructor
  · intro h
    split at h
    all_goals
      cases h
    all_goals
      assumption
  · intro h
    rw [h]
    cases label <;> rfl

end FullTextSearch
