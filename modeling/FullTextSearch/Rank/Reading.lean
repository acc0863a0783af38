/-
# `FullTextSearch.Rank.Reading` — rank options from any value.

Rank options come as a mapping, as JSON text of one, or as options checked before.  Every field has
a short name, which is preferred, and a long one.  A field that cannot be used is repaired on its
own with a warning; a field that is refused discards the whole.  The fields are looked at in a fixed
order, so the warnings come in that order too.

A `tsv` is refused unless the validation takes it for a text.  The readers of the other fields repair
what they are given, and refuse it only where a conversion inside them complains: the key of a weight
may have no text, and a value of another kind may break an assertion of its own.
-/
import FullTextSearch.Outcome
import FullTextSearch.Value.Coercion
import FullTextSearch.Value.Display

namespace FullTextSearch.Rank

/-- The value of a field, under its short name where it is given, else under its long name. -/
def field? (short long : String) (entries : List (Value × Value)) : Option Value :=
  (Value.field? short.toList entries).or (Value.field? long.toList entries)

/-! ## Fields -/

/-- What a fault in the reader of a field comes to: `none` where it refuses the field. -/
def refusal {α : Type} (fault : Fault) : Outcome (Option α) :=
  if fault.refusesField then pure none else .fault fault

/-- The ranking function: an absent one is the default, any other value goes by its text. -/
def readFunction : Option Value → Outcome (Option RankFunction)
  | none => pure (some .frequency)
  | some (.function f) => pure (some f)
  | some v =>
    match v.plain with
    | .ok name =>
      match RankFunction.ofName? name with
      | some f => pure (some f)
      | none => .instead (some .frequency) .unsupportedRankFunction
    | .error fault =>
      -- a complaint about the value means the same as a name that is not known
      if fault.nature = .value then .instead (some .frequency) .unsupportedRankFunction
      else refusal fault

/-- What becomes of one entry of the weights. -/
inductive WeightEntry where
  | accepted (label : WeightLabel) (weight : Binary64)
  | rejected (warning : Warning)
deriving DecidableEq, Repr

/-- What becomes of an entry under a label that counts. -/
def WeightEntry.ofNumber (label : WeightLabel) : Option Binary64 → WeightEntry
  | some x => .accepted label x
  | none => .rejected .weightNotNumber

/-- One entry: it needs a label and a number, and the label is looked at first. -/
def readWeight (entry : Value × Value) : Except Fault WeightEntry := do
  let name ← entry.1.plain
  match WeightLabel.ofText? name with
  | none => return .rejected .unknownWeightLabel
  | some label => entry.2.asNumber?.map (WeightEntry.ofNumber label)

/-- The weights of a mapping, entry by entry, on top of those that are there: of several accepted
entries for one label the last one counts, and every rejected entry leaves its warning. -/
def readEntries (weights : Weights) : List (Value × Value) → Outcome (Option Weights)
  | [] => pure (some weights)
  | entry :: rest =>
    match readWeight entry with
    | .ok (.accepted label x) => readEntries (weights.write label x) rest
    | .ok (.rejected warning) => (readEntries weights rest).after [warning]
    | .error fault => refusal fault

/-- The weights: absent or a mapping. -/
def readWeights : Option Value → Outcome (Option (Option Weights))
  | none | some .null => pure (some none)
  | some (.mapping entries) => Option.map some <$> readEntries .empty entries
  | some _ => .instead (some none) .weightsNotMapping

/-- The normalization: absent or an integer; a truth value is none. -/
def readNormalization : Option Value → Outcome (Option Int)
  | none | some .null => pure none
  | some (.int n) => pure (some n)
  | some _ => .instead none .normalizationNotInteger

section Validation

variable (lib : Validation)

/-- The vector: absent or a text; `none` where it is neither. -/
def readTsv? : Option Value → Option (Option Text)
  | none | some .null => some none
  | some v => (lib.text? v).map some

/-! ## Options -/

/-- The options that a mapping gives. -/
def ofEntries (entries : List (Value × Value)) : Outcome RankOptions := do
  let function ← readFunction (field? "_f" "function" entries)
  let weights ← readWeights (field? "_w" "weights" entries)
  let normalization ← readNormalization (field? "_n" "normalization" entries)
  match function, weights, readTsv? lib (Value.field? "tsv".toList entries) with
  | some function, some weights, some tsv => pure { function, weights, normalization, tsv }
  | _, _, _ => .instead {} .invalidRankOptions

/-- The options that decoded JSON text gives: it has to spell an object. -/
def ofJson (decoded : Option Value) : Outcome RankOptions :=
  match decoded with
  | some (.mapping entries) => ofEntries lib entries
  | _ => .instead {} .invalidRankOptions

/-- The options that any value gives. -/
def ofValue : Value → Outcome RankOptions
  | .null => pure {}
  | .rankOptions o => pure o
  | .text t => ofJson lib (lib.decode? t)
  | .octets bytes => ofJson lib (lib.decodeOctets? bytes)
  | .function f => ofJson lib (lib.decode? f.name)
  | .mapping entries => ofEntries lib entries
  | _ => .instead {} .unsupportedRankOptions

end Validation

end FullTextSearch.Rank
