/-
# `FullTextSearch.Proofs.CleanedOptions` — options that were read are read again as they are.

Reading repairs what it cannot use, and what it leaves needs no repair.  Of the fields of options only
the weights could need any: they might name a label twice, or weigh it outside the unit interval.
`Weights` exclude that by themselves, so every options will do, read or given.  Their fields, listed
under their short or their long names, are read as the same options without a warning
(`ofEntries_fieldEntries`).  The main statement is `read_again`.
-/
import FullTextSearch.Proofs.Leniency
import FullTextSearch.Sql.Ordering

namespace FullTextSearch

namespace Rank

/-! ## Options as a mapping -/

/-- The names under which a mapping lists its fields. -/
inductive Naming where
  | short
  | long

/-- The name of the ranking function. -/
def Naming.function : Naming → String
  | .short => "_f"
  | .long => "function"

/-- The name of the weights. -/
def Naming.weights : Naming → String
  | .short => "_w"
  | .long => "weights"

/-- The name of the normalization. -/
def Naming.normalization : Naming → String
  | .short => "_n"
  | .long => "normalization"

/-- A weight as an entry of a mapping. -/
def weightEntry (pair : WeightLabel × Binary64) : Value × Value :=
  (.text [pair.1.letter], .float pair.2)

/-- The value of a field, null where it was not given. -/
def fieldValue {α : Type} (value : α → Value) : Option α → Value
  | some a => value a
  | none => .null

/-- The mapping of the fields of options. -/
def fieldEntries (naming : Naming) (o : RankOptions) : List (Value × Value) :=
  [(.text naming.function.toList, .function o.function),
    (.text naming.weights.toList,
      fieldValue (fun weights => .mapping (weights.entries.map weightEntry)) o.weights),
    (.text naming.normalization.toList, fieldValue .int o.normalization),
    (.text "tsv".toList, fieldValue .text o.tsv)]

/-! ## Weights that are read again -/

/-- An entry for a label with a number is read as it is. -/
theorem readWeight_weightEntry (pair : WeightLabel × Binary64) :
    readWeight (weightEntry pair) = .ok (.accepted pair.1 pair.2) := by
  have hlabel : Text.capitals [pair.1.letter] = [pair.1.letter] := by
    cases pair.1 <;> decide
  exact readWeight_of_known rfl hlabel

/-- Nothing stops such entries. -/
theorem convertible_map_weightEntry (pairs : List (WeightLabel × Binary64)) :
    Convertible (pairs.map weightEntry) := by
  intro entry hentry fault hstops
  obtain ⟨pair, -, rfl⟩ := List.mem_map.mp hentry
  rw [← readWeight_eq_error_iff, readWeight_weightEntry] at hstops
  cases hstops

/-- **Weights are read again as they are**, and no entry leaves a warning. -/
theorem readWeights_map_weightEntry (weights : Weights) :
    readWeights (some (.mapping (weights.entries.map weightEntry))) =
      .answer (some (some weights)) [] := by
  have hnumber : (weights.entries.map weightEntry).filterMap number? = weights.entries := by
    rw [List.filterMap_map]
    refine (List.filterMap_congr fun pair _ => ?_).trans List.filterMap_some
    show number? (weightEntry pair) = some pair
    rw [number?, readWeight_weightEntry]
  have hcomplaint : (weights.entries.map weightEntry).filterMap complaint? = [] := by
    rw [List.filterMap_eq_nil_iff]
    intro entry hentry
    obtain ⟨pair, -, rfl⟩ := List.mem_map.mp hentry
    rw [complaint?, readWeight_weightEntry]
  rw [readWeights_of_convertible (convertible_map_weightEntry _), hcomplaint, weightsOf, hnumber,
    Weights.ofPairs_entries]

/-! ## Options that are read again -/

section Fields

variable (o : RankOptions) (naming : Naming)

/-- The function comes back under either name. -/
theorem readFunction_fieldEntries :
    readFunction (field? "_f" "function" (fieldEntries naming o)) =
      .answer (some o.function) [] := by
  cases naming <;> rfl

/-- So do the weights, given or not. -/
theorem readWeights_fieldEntries :
    readWeights (field? "_w" "weights" (fieldEntries naming o)) = .answer (some o.weights) [] := by
  have hfield : field? "_w" "weights" (fieldEntries naming o) =
      some (fieldValue (fun weights => .mapping (weights.entries.map weightEntry)) o.weights) := by
    cases naming <;> rfl
  rw [hfield]
  cases o.weights with
  | none => rfl
  | some weights => exact readWeights_map_weightEntry weights

/-- And so does the normalization. -/
theorem readNormalization_fieldEntries :
    readNormalization (field? "_n" "normalization" (fieldEntries naming o)) =
      .answer o.normalization [] := by
  have hfield : field? "_n" "normalization" (fieldEntries naming o) =
      some (fieldValue .int o.normalization) := by
    cases naming <;> rfl
  rw [hfield]
  cases o.normalization <;> rfl

/-- The vector of options is a text, and a text is taken for itself. -/
theorem readTsv?_fieldEntries (lib : Validation) :
    readTsv? lib (Value.field? "tsv".toList (fieldEntries naming o)) = some o.tsv := by
  have hfield : Value.field? "tsv".toList (fieldEntries naming o) =
      some (fieldValue .text o.tsv) := by
    cases naming <;> rfl
  rw [hfield]
  cases o.tsv with
  | none => rfl
  | some t =>
      show (lib.text? (.text t)).map some = some (some t)
      rw [lib.text?_text]
      rfl

/-- **Options are read from the mapping of their fields**, without a warning. -/
theorem ofEntries_fieldEntries (lib : Validation) :
    ofEntries lib (fieldEntries naming o) = .answer o [] := by
  rw [ofEntries, readFunction_fieldEntries, readWeights_fieldEntries,
    readNormalization_fieldEntries, readTsv?_fieldEntries]
  rfl

end Fields

/-! ## In a rank expression -/

/-- A rank expression of any value is that of the options read from it, behind their warnings. -/
theorem rankExpression_of_ofValue {lib : Validation} {v : Value} {o : RankOptions}
    {warnings : List Warning} (h : ofValue lib v = .answer o warnings) (settings : Settings)
    (tsv query : Text) :
    Sql.rankExpression lib settings tsv query v =
      (Sql.rankExpression lib settings tsv query (.rankOptions o)).after warnings := by
  rw [Sql.rankExpression, Sql.rankExpression, h, Outcome.answer_bind]
  show Outcome.after warnings _ = Outcome.after warnings (Outcome.after [] _)
  rw [Outcome.after_nil]

/-- **What was read is read again as it is.**  The fields of any options that were read, listed under
their short or their long names, give the same options and no warning; so the value, the options and
the mapping of the fields make the same rank expression, whatever the vector, the query and the
settings, and only the value leaves its warnings. -/
theorem read_again {lib : Validation} {v : Value} {o : RankOptions} {warnings : List Warning}
    (read : ofValue lib v = .answer o warnings) (naming : Naming) :
    ofValue lib (.mapping (fieldEntries naming o)) = .answer o [] ∧
      ∀ settings tsv query,
        Sql.rankExpression lib settings tsv query (.mapping (fieldEntries naming o)) =
          Sql.rankExpression lib settings tsv query (.rankOptions o) ∧
        Sql.rankExpression lib settings tsv query v =
          (Sql.rankExpression lib settings tsv query (.rankOptions o)).after warnings := by
  have hagain : ofValue lib (.mapping (fieldEntries naming o)) = .answer o [] :=
    ofEntries_fieldEntries o naming lib
  refine ⟨hagain, ?_⟩
  intro settings tsv query
  refine ⟨?_, rankExpression_of_ofValue read settings tsv query⟩
  rw [rankExpression_of_ofValue hagain, Outcome.after_nil]

/-- JSON text with a function under its short name, weights that are repaired and a normalization
that cannot be used. -/
theorem read_again_json :
    let v : Value := .text ("\x7b\"_f\":\"ts_rank_cd\",\"weights\":\x7b\"b\":3,\"x\":1\x7d," ++
      "\"_n\":true\x7d").toList
    let o : RankOptions :=
      { function := .coverDensity, weights := some (.ofPairs [(.b, .one)]) }
    ofValue .standard v = .answer o [.unknownWeightLabel, .normalizationNotInteger] ∧
      ofValue .standard (.mapping (fieldEntries .long o)) = .answer o [] ∧
      ∀ settings tsv query,
        Sql.rankExpression .standard settings tsv query (.mapping (fieldEntries .long o)) =
          Sql.rankExpression .standard settings tsv query (.rankOptions o) ∧
        Sql.rankExpression .standard settings tsv query v =
          (Sql.rankExpression .standard settings tsv query (.rankOptions o)).after
            [.unknownWeightLabel, .normalizationNotInteger] := by
  intro v o
  have hread : ofValue .standard v =
      .answer o [.unknownWeightLabel, .normalizationNotInteger] := by
    decide +kernel
  obtain ⟨hagain, hcalls⟩ := read_again hread .long
  exact ⟨hread, hagain, hcalls⟩

end Rank

end FullTextSearch
