/-
# `FullTextSearch.Proofs.Weights` — what becomes of the weights of a ranking.

A mapping of weights may hold anything.  An entry *gives* a number to a label if its key is the
letter of the label, in either case, and its value is taken for that number (`Gives`).  A label then
has the last number it was given, clamped to the unit interval, and a label that was given none has
no weight (`WeighsAs`).  Every entry that gives nothing leaves one warning and changes nothing
(`Complaints`).

Reading runs over the entries once, so what it writes is a row of writes (`written?`) and each label
follows the last write to it (`lookup_weightsOf_iff`).  The main statement is
`weights_settled_by_last_entries`.  It is about weights whose conversions all succeed; weights that a
conversion stops are refused with all other fields, or fail the reading.
-/
import FullTextSearch.Proofs.Clamping
import FullTextSearch.Proofs.Leniency

namespace FullTextSearch

namespace Rank

/-! ## What the entries come to -/

/-- **The weight of a label**: what the last entry that gives it a number is clamped to. -/
def WeighsAs (entries : List (Value × Value)) (label : WeightLabel) : Option Binary64 → Prop
  | none => ∀ entry ∈ entries, ∀ x, ¬ Gives label x entry
  | some w => ∃ before entry after x, entries = before ++ entry :: after ∧ Gives label x entry ∧
      (∀ later ∈ after, ∀ y, ¬ Gives label y later) ∧ Binary64.ClampedTo x w

/-- **The warnings of the entries**, in order: one for every entry that gives nothing, and that is
the one for the label as soon as the label is unknown. -/
inductive Complaints : List (Value × Value) → List Warning → Prop
  | nil : Complaints [] []
  | given {label : WeightLabel} {x : Binary64} {entry : Value × Value}
      {rest : List (Value × Value)} {warnings : List Warning} (gives : Gives label x entry)
      (more : Complaints rest warnings) : Complaints (entry :: rest) warnings
  | unknownLabel {name : Text} {entry : Value × Value} {rest : List (Value × Value)}
      {warnings : List Warning} (named : entry.1.plain = .ok name)
      (unknown : ∀ label : WeightLabel, name.capitals ≠ [label.letter])
      (more : Complaints rest warnings) :
      Complaints (entry :: rest) (.unknownWeightLabel :: warnings)
  | notNumber {name : Text} {label : WeightLabel} {entry : Value × Value}
      {rest : List (Value × Value)} {warnings : List Warning} (named : entry.1.plain = .ok name)
      (known : name.capitals = [label.letter]) (noNumber : entry.2.asNumber? = .ok none)
      (more : Complaints rest warnings) :
      Complaints (entry :: rest) (.weightNotNumber :: warnings)

/-- Whether an entry stands under a label. -/
def isUnder (label : WeightLabel) (entry : Value × Value) : Bool :=
  match entry.1.plain with
  | .ok name => name.capitals == [label.letter]
  | .error _ => false

/-- **Entries that are rearranged** so that those of different labels change places, and those under
no label may be left out: under each label there are the same ones, in the same order. -/
structure Rearranges (entries entries' : List (Value × Value)) : Prop where
  known : ∀ entry ∈ entries', entry ∈ entries
  underLabels : ∀ label, entries.filter (isUnder label) = entries'.filter (isUnder label)

/-- What stands in an array for a weight: the number itself, and the integer zero where there is
none. -/
def arrayItem : Option Binary64 → Value
  | some w => .float w
  | none => .int 0

/-- **What a mapping of weights settles.**  Its weights have each label once, with a number in the
unit interval, and exactly those labels that an entry gives a number; the number is that of the last
such entry.  The array lists the weights of the four labels from `D` to `A`, with a zero for a label
that has none, and a call writes them in that order. -/
structure Settles (m : List (Value × Value)) (o : RankOptions) : Prop where
  weights : ∃ weights, o.weights = some weights ∧ (weights.entries.map Prod.fst).Nodup ∧
    (∀ label, label ∈ weights.entries.map Prod.fst ↔ ∃ entry ∈ m, ∃ x, Gives label x entry) ∧
    ∀ label w, (label, w) ∈ weights.entries ↔ w.InUnit ∧ WeighsAs m label (some w)
  array : ∃ weight : WeightLabel → Option Binary64, (∀ label, WeighsAs m label (weight label)) ∧
    o.weightArray = some [arrayItem (weight .d), arrayItem (weight .c), arrayItem (weight .b),
      arrayItem (weight .a)] ∧
    ∀ settings tsv query, expression settings tsv query o = (do
      let call ← Sql.tsqueryCall query []
      let normalization ← normalizationText settings o
      return o.function.name ++ "(array[".toList ++ arrayText (weight .d) ++ ", ".toList ++
        arrayText (weight .c) ++ ", ".toList ++ arrayText (weight .b) ++ ", ".toList ++
        arrayText (weight .a) ++ "], ".toList ++ tsv ++ ", ".toList ++ call ++ ", ".toList ++
        normalization ++ [')'])

/-! ## One entry -/

/-- What an entry writes: a label and its weight. -/
def written? (entry : Value × Value) : Option (WeightLabel × Binary64) :=
  (number? entry).map Weights.clampPair

/-- What an entry writes is the clamp of the number that it gives. -/
theorem written?_eq_some_iff {entry : Value × Value} {label : WeightLabel} {w : Binary64} :
    written? entry = some (label, w) ↔ ∃ x, Gives label x entry ∧ Binary64.ClampedTo x w := by
  rw [written?, Option.map_eq_some_iff]
  constructor
  · rintro ⟨⟨_, x⟩, hnumber, hclamp⟩
    cases hclamp
    exact ⟨x, number?_eq_some_iff.mp hnumber, Binary64.clampedTo_clampUnit x⟩
  · rintro ⟨x, hgives, hclamp⟩
    obtain rfl := Binary64.clampedTo_iff.mp hclamp
    exact ⟨(label, x), number?_eq_some_iff.mpr hgives, rfl⟩

/-- An entry writes to a label exactly if it gives it a number. -/
theorem written?_ne_some_iff {entry : Value × Value} {label : WeightLabel} :
    (∀ w, written? entry ≠ some (label, w)) ↔ ∀ x, ¬ Gives label x entry := by
  constructor
  · intro h x hgives
    exact h x.clampUnit
      (written?_eq_some_iff.mpr ⟨x, hgives, Binary64.clampedTo_clampUnit x⟩)
  · intro h w hw
    obtain ⟨x, hgives, -⟩ := written?_eq_some_iff.mp hw
    exact h x hgives

/-! ## All entries -/

/-- The weights are what the entries write, one after another. -/
theorem entries_weightsOf (m : List (Value × Value)) :
    (weightsOf m).entries = Entries.ofPairs (· == ·) (m.filterMap written?) := by
  rw [weightsOf, Weights.entries_ofPairs, List.map_filterMap]
  rfl

/-- The entries leave their warnings in order. -/
theorem complaints_of_convertible {m : List (Value × Value)} (h : Convertible m) :
    Complaints m (m.filterMap complaint?) := by
  induction m with
  | nil => exact .nil
  | cons entry rest ih =>
      obtain ⟨hentry, hrest⟩ := List.forall_mem_cons.mp h
      have hmore := ih hrest
      rw [List.filterMap_cons, complaint?]
      rcases readWeight_cases entry with ⟨label, x, hgives, hread⟩ | ⟨name, hname, hunknown, hread⟩ |
        ⟨name, label, hname, hlabel, hnumber, hread⟩ | ⟨fault, hstops, -⟩
      · rw [hread]
        exact .given hgives hmore
      · rw [hread]
        exact .unknownLabel hname hunknown hmore
      · rw [hread]
        exact .notNumber hname hlabel hnumber hmore
      · exact absurd hstops (hentry fault)

/-- **Each label has the weight of the last entry that gives it a number.** -/
theorem lookup_weightsOf_iff {m : List (Value × Value)} {label : WeightLabel}
    {weight : Option Binary64} :
    (weightsOf m).get? label = weight ↔ WeighsAs m label weight := by
  rw [Weights.get?, entries_weightsOf, Entries.lookup_ofPairs]
  cases weight with
  | none =>
      rw [Entries.foldl_heldAfter_eq_none_iff]
      constructor
      · rintro ⟨-, hnone⟩ entry hentry
        apply written?_ne_some_iff.mp
        intro w hw
        exact hnone (label, w) (List.mem_filterMap.mpr ⟨entry, hentry, hw⟩) rfl
      · intro hnone
        refine ⟨rfl, ?_⟩
        rintro ⟨_, w⟩ hpair rfl
        obtain ⟨entry, hentry, hw⟩ := List.mem_filterMap.mp hpair
        exact written?_ne_some_iff.mpr (hnone entry hentry) w hw
  | some w =>
      rw [Entries.foldl_heldAfter_eq_some_iff]
      constructor
      · rintro (⟨_, _, hpairs, hafter⟩ | ⟨h, -⟩)
        · obtain ⟨first, last, rfl, -, hlast⟩ := List.filterMap_eq_append_iff.mp hpairs
          obtain ⟨more, entry, after, rfl, -, hentry, rfl⟩ := List.filterMap_eq_cons_iff.mp hlast
          obtain ⟨x, hgives, hclamp⟩ := written?_eq_some_iff.mp hentry
          refine ⟨first ++ more, entry, after, x, by simp, hgives, ?_, hclamp⟩
          intro later hlater
          apply written?_ne_some_iff.mp
          intro w' hw'
          exact hafter (label, w') (List.mem_filterMap.mpr ⟨later, hlater, hw'⟩) rfl
        · cases h
      · rintro ⟨before, entry, after, x, rfl, hgives, hlater, hclamp⟩
        have hentry := written?_eq_some_iff.mpr ⟨x, hgives, hclamp⟩
        refine Or.inl ⟨before.filterMap written?, after.filterMap written?, ?_, ?_⟩
        · rw [List.filterMap_append, List.filterMap_cons, hentry]
        · rintro ⟨_, w'⟩ hpair rfl
          obtain ⟨later, hmem, hw'⟩ := List.mem_filterMap.mp hpair
          exact written?_ne_some_iff.mpr (hlater later hmem) w' hw'

/-- A label looks at the entries under it only. -/
theorem get?_weightsOf_filter (m : List (Value × Value)) (label : WeightLabel) :
    (weightsOf (m.filter (isUnder label))).get? label = (weightsOf m).get? label := by
  rw [Weights.get?, Weights.get?, entries_weightsOf, entries_weightsOf, Entries.lookup_ofPairs,
    Entries.lookup_ofPairs, List.foldl_filterMap, List.foldl_filterMap, List.foldl_filter]
  congr 1
  funext held entry
  split
  · rfl
  · next hother =>
      cases hwritten : written? entry with
      | none => rfl
      | some pair =>
          obtain ⟨label', w⟩ := pair
          obtain ⟨x, ⟨name, hname, hlabel, -⟩, -⟩ := written?_eq_some_iff.mp hwritten
          have hne : label ≠ label' := by
            rintro rfl
            exact hother (by simp [isUnder, hname, hlabel])
          exact (if_neg (by simpa using hne)).symm

/-! ## Rank options -/

/-- The weights that entries write are settled by the last of them for each label. -/
theorem settles_weightsOf {m : List (Value × Value)} {o : RankOptions}
    (h : o.weights = some (weightsOf m)) : Settles m o := by
  have hnodup := (weightsOf m).labels
  have hmem : ∀ label w, (label, w) ∈ (weightsOf m).entries ↔ WeighsAs m label (some w) := by
    intro label w
    rw [Entries.mem_iff_lookup_eq_some hnodup]
    exact lookup_weightsOf_iff
  have hunit : ∀ {label w}, WeighsAs m label (some w) → w.InUnit := by
    rintro label w ⟨_, _, _, x, -, -, -, hclamp⟩
    exact hclamp.inUnit
  refine ⟨⟨weightsOf m, h, hnodup, ?_, ?_⟩, ?_⟩
  · intro label
    constructor
    · intro hlabel
      obtain ⟨⟨_, w⟩, hw, rfl⟩ := List.mem_map.mp hlabel
      obtain ⟨before, entry, after, x, rfl, hgives, -, -⟩ := (hmem _ w).mp hw
      exact ⟨entry, by simp, x, hgives⟩
    · rintro ⟨entry, hentry, x, hgives⟩
      cases hget : (weightsOf m).get? label with
      | none => exact absurd hgives (lookup_weightsOf_iff.mp hget entry hentry x)
      | some w =>
          exact List.mem_map.mpr
            ⟨(label, w), (hmem label w).mpr (lookup_weightsOf_iff.mp hget), rfl⟩
  · intro label w
    rw [hmem]
    exact ⟨fun hw => ⟨hunit hw, hw⟩, fun hw => hw.2⟩
  · have hitem : ∀ label, (weightsOf m).arrayItem label = arrayItem ((weightsOf m).get? label) := by
      intro label
      rw [Weights.arrayItem]
      cases (weightsOf m).get? label <;> rfl
    refine ⟨(weightsOf m).get?, fun label => lookup_weightsOf_iff.mp rfl, ?_, ?_⟩
    · rw [RankOptions.weightArray, h]
      simp [WeightLabel.arrayOrder, hitem]
    · intro settings tsv query
      rw [expression, weightsArgument_eq_ok, arrayArgument, h]
      simp [arrayTexts, WeightLabel.arrayOrder, List.intercalate, bind, Except.bind]

/-- The weights of rearranged entries are the same under each label. -/
theorem get?_weightsOf_of_rearranges {m m' : List (Value × Value)} (h : Rearranges m m')
    (label : WeightLabel) : (weightsOf m').get? label = (weightsOf m).get? label := by
  rw [← get?_weightsOf_filter m', ← h.underLabels label, get?_weightsOf_filter]

/-- So is the array that they make. -/
theorem weightArray_of_rearranges {m m' : List (Value × Value)} {o o' : RankOptions}
    (h : o.weights = some (weightsOf m)) (h' : o'.weights = some (weightsOf m'))
    (hmoved : Rearranges m m') : o'.weightArray = o.weightArray := by
  have hitem : ∀ label, (weightsOf m').arrayItem label = (weightsOf m).arrayItem label := by
    intro label
    rw [Weights.arrayItem, Weights.arrayItem, get?_weightsOf_of_rearranges hmoved]
  rw [RankOptions.weightArray, RankOptions.weightArray, h, h']
  exact congrArg some (List.map_congr_left fun label _ => hitem label)

section Mapping

variable {lib : Validation} {entries m : List (Value × Value)} {function : RankFunction}
  {before : List Warning}
  (given : field? "_w" "weights" entries = some (.mapping m))
  (named : readFunction (field? "_f" "function" entries) = .answer (some function) before)
include given named

/-- Where the conversions of all weights succeed, a mapping is read with the weights that its entries
write. -/
theorem exists_ofEntries_of_convertible (usable : VectorLike lib (Value.field? "tsv".toList entries))
    (convertible : Convertible m) :
    ∃ o after,
      ofEntries lib entries = .answer o (before ++ m.filterMap complaint? ++ after) ∧
      o.function = function ∧
      readNormalization (field? "_n" "normalization" entries) = .answer o.normalization after ∧
      o.weights = some (weightsOf m) := by
  obtain ⟨after, hnormalization⟩ := exists_readNormalization (field? "_n" "normalization" entries)
  obtain ⟨tsv, htsv⟩ := Option.ne_none_iff_exists'.mp (readTsv?_ne_none_iff.mpr usable)
  refine ⟨⟨function, some (weightsOf m), _, tsv⟩, after, ?_, rfl, hnormalization, rfl⟩
  rw [ofEntries, named, given, readWeights_of_convertible convertible, hnormalization, htsv]
  show Outcome.answer _ (before ++ (m.filterMap complaint? ++ (after ++ []))) = _
  rw [List.append_nil, List.append_assoc]
  rfl

/-- Where a conversion stops the weights, the mapping is refused, or it fails. -/
theorem ofEntries_of_weightsStop {fault : Fault} (stops : WeightsStop m fault) :
    (fault.refusesField = true →
      ∃ warnings, ofEntries lib entries = .answer {} (warnings ++ [.invalidRankOptions])) ∧
    (fault.refusesField = false → ofEntries lib entries = .fault fault) := by
  obtain ⟨after, hnormalization⟩ := exists_readNormalization (field? "_n" "normalization" entries)
  obtain ⟨ws, hread⟩ := exists_readWeights_of_stops stops
  constructor
  · intro hrefuses
    rw [refusal_of_refuses hrefuses] at hread
    refine ⟨before ++ (ws ++ after), ?_⟩
    rw [ofEntries, named, given, hread, hnormalization]
    show Outcome.answer _ (before ++ ((ws ++ []) ++ (after ++ [.invalidRankOptions]))) = _
    rw [List.append_nil, List.append_assoc, List.append_assoc]
  · intro hrefuses
    rw [refusal_of_not_refuses hrefuses] at hread
    rw [ofEntries, named, given, hread]
    rfl

end Mapping

/-- **The weights are settled by the last entries.**  Take rank options with a mapping of weights, a
function that is read and a vector that is taken.  If every conversion among the weights succeeds, the
options are read with the weights that the mapping settles: each entry that gives nothing leaves its
warning, in order, between those of the function and of the normalization.  Entries of different
labels may change places: neither the array nor its text changes.  If a conversion stops the weights,
all defaults are left, with the warning for invalid options behind those before it, or the options
fail. -/
theorem weights_settled_by_last_entries {lib : Validation} {entries m : List (Value × Value)}
    {function : RankFunction} {before : List Warning}
    (given : field? "_w" "weights" entries = some (.mapping m))
    (named : readFunction (field? "_f" "function" entries) = .answer (some function) before)
    (usable : VectorLike lib (Value.field? "tsv".toList entries)) :
    (Convertible m → ∃ o warnings after,
      ofEntries lib entries = .answer o (before ++ warnings ++ after) ∧
      o.function = function ∧
      readNormalization (field? "_n" "normalization" entries) = .answer o.normalization after ∧
      Settles m o ∧ Complaints m warnings ∧
      ∀ m' entries' function' before', Rearranges m m' →
        field? "_w" "weights" entries' = some (.mapping m') →
        readFunction (field? "_f" "function" entries') = .answer (some function') before' →
        VectorLike lib (Value.field? "tsv".toList entries') →
        ∃ o' warnings', ofEntries lib entries' = .answer o' warnings' ∧
          o'.weightArray = o.weightArray ∧ weightsArgument o' = weightsArgument o) ∧
    ∀ fault, WeightsStop m fault →
      (fault.refusesField = true →
        ∃ warnings, ofEntries lib entries = .answer {} (warnings ++ [.invalidRankOptions])) ∧
      (fault.refusesField = false → ofEntries lib entries = .fault fault) := by
  refine ⟨?_, fun fault stops => ofEntries_of_weightsStop given named stops⟩
  intro convertible
  obtain ⟨o, after, hanswer, hfunction, hnormalization, hweights⟩ :=
    exists_ofEntries_of_convertible given named usable convertible
  refine ⟨o, _, after, hanswer, hfunction, hnormalization, settles_weightsOf hweights,
    complaints_of_convertible convertible, ?_⟩
  intro m' entries' function' before' hmoved given' named' usable'
  have convertible' : Convertible m' := fun entry hentry =>
    convertible entry (hmoved.known entry hentry)
  obtain ⟨o', after', hanswer', -, -, hweights'⟩ :=
    exists_ofEntries_of_convertible given' named' usable' convertible'
  have harray := weightArray_of_rearranges hweights hweights' hmoved
  refine ⟨o', _, hanswer', harray, ?_⟩
  rw [weightsArgument, weightsArgument, harray]

/-- Two entries for one label, one of which is no number, an unknown label, and a weight below zero;
the entries of different labels then change places.  The labels that are not listed are zeros of
another kind than the one that is. -/
theorem weights_settled_by_last_entries_colliding :
    let m : List (Value × Value) := [(.text "a".toList, .int 2), (.text "Z".toList, .null),
      (.text "A".toList, .text "x".toList), (.text "B".toList, .int (-1))]
    let m' : List (Value × Value) := [(.text "B".toList, .int (-1)), (.text "a".toList, .int 2),
      (.text "A".toList, .text "x".toList)]
    ∃ o : RankOptions,
      ofEntries .standard [(.text "_w".toList, .mapping m)] =
        .answer o [.unknownWeightLabel, .weightNotNumber] ∧
      weightsArgument o = .ok "array[0, 0, 0.0, 1.0], ".toList ∧
      Settles m o ∧ Complaints m [.unknownWeightLabel, .weightNotNumber] ∧
      ∃ o' warnings',
        ofEntries .standard [(.text "weights".toList, .mapping m')] = .answer o' warnings' ∧
        o'.weightArray = o.weightArray ∧ weightsArgument o' = weightsArgument o := by
  intro m m'
  let weights : Weights := .ofPairs [(.a, .one), (.b, .zero)]
  have hanswer : ofEntries .standard [(.text "_w".toList, .mapping m)] =
      .answer { weights := some weights } [.unknownWeightLabel, .weightNotNumber] := by
    decide +kernel
  have htext : weightsArgument { weights := some weights } =
      .ok "array[0, 0, 0.0, 1.0], ".toList := by
    decide +kernel
  have hreads : ∀ entry ∈ m, (readWeight entry).isOk = true := by decide +kernel
  have hconvertible : Convertible m := by
    intro entry hentry fault hstops
    have hread := hreads entry hentry
    rw [readWeight_eq_error_iff.mpr hstops] at hread
    cases hread
  have hmoved : Rearranges m m' := ⟨by simp [m, m'], by intro label; cases label <;> rfl⟩
  obtain ⟨o, warnings, after, hsettled, -, hnormalization, hsettles, hcomplaints, hrest⟩ :=
    (@weights_settled_by_last_entries .standard [(.text "_w".toList, .mapping m)] _ _ _ rfl rfl
      .absent).1 hconvertible
  -- no other field is given, so all the warnings are those of the weights
  obtain ⟨-, rfl⟩ := Outcome.answer.inj hnormalization
  rw [hanswer, List.nil_append, List.append_nil] at hsettled
  obtain ⟨rfl, rfl⟩ := Outcome.answer.inj hsettled
  exact ⟨_, hanswer, htext, hsettles, hcomplaints, hrest m' _ _ _ hmoved rfl rfl .absent⟩

end Rank

end FullTextSearch
