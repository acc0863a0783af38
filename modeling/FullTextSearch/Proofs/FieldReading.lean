/-
# `FullTextSearch.Proofs.FieldReading` — what the fields of rank options come to.

Three conversions inside the readers of fields may fail: the text of a key among the weights, the
number of a weight, and the text that names the ranking function.  A failing conversion *stops* its
reader (`EntryStops`, `WeightsStop`, `FieldStops`), and what it failed for decides what comes of the
field: a complaint about a value, or a broken assertion, refuses it, and anything else fails the
reading (`refusal`).

There is one inversion for each reader, which says all that it can do: for one weight
(`readWeight_cases`), for the weights in order (`readEntries_of_convertible`,
`exists_readEntries_of_stops`) and for the ranking function (`readFunction_cases`).
-/
import FullTextSearch.Proofs.LastWrite
import FullTextSearch.Proofs.Rounding
import FullTextSearch.Proofs.WrittenValues
import FullTextSearch.Rank.Reading

namespace FullTextSearch

namespace Value

/-- An integer fails to give a number where there is no finite one. -/
theorem asNumber?_int_eq_error_iff {n : Int} {fault : Fault} :
    (int n).asNumber? = .error fault ↔
      fault = .weightOverflow ∧ Binary64.overflowBound ≤ n.natAbs := by
  rw [asNumber?]
  have hbound := Binary64.exists_ofInt_eq_infinite_iff n
  constructor
  · intro h
    split at h
    · next s hinfinite =>
        cases h
        exact ⟨rfl, hbound.mp ⟨s, hinfinite⟩⟩
    · cases h
  · rintro ⟨rfl, hlarge⟩
    obtain ⟨s, hs⟩ := hbound.mpr hlarge
    rw [hs]

/-- A value of another kind fails to give a number where it fails for something else than being
none. -/
theorem asNumber?_other_eq_error_iff {o : Foreign} {fault : Fault} :
    (other o).asNumber? = .error fault ↔ o.number = .error fault ∧ fault.deniesNumber = false := by
  rw [asNumber?]
  cases o.number with
  | ok x => simp
  | error raised =>
      constructor
      · intro h
        split at h
        · next hnumber => cases hnumber
        · next hnumber =>
            cases hnumber
            split at h
            · cases h
            · next hdenies =>
                cases h
                exact ⟨rfl, by simpa using hdenies⟩
      · rintro ⟨hraised, hdenies⟩
        cases hraised
        simp [hdenies]

/-- **The conversion to a number fails** for an integer beyond the finite numbers, and for a value of
another kind that fails for something else than being no number. -/
theorem asNumber?_eq_error_iff {v : Value} {fault : Fault} :
    v.asNumber? = .error fault ↔
      (fault = .weightOverflow ∧ ∃ n, v = .int n ∧ Binary64.overflowBound ≤ n.natAbs) ∨
        ∃ o, v = .other o ∧ o.number = .error fault ∧ fault.deniesNumber = false := by
  cases v with
  | int n => simp [asNumber?_int_eq_error_iff]
  | other o => simp [asNumber?_other_eq_error_iff]
  | null | bool | float | text | octets | list | tuple | mapping | function | rankOptions
  | searchOptions => simp [asNumber?]

end Value

namespace Rank

/-! ## Entries of the weights -/

/-- An entry that gives a number to a label. -/
def Gives (label : WeightLabel) (x : Binary64) (entry : Value × Value) : Prop :=
  ∃ name, entry.1.plain = .ok name ∧ name.capitals = [label.letter] ∧
    entry.2.asNumber? = .ok (some x)

/-- **A conversion that stops the weights at an entry**: its key has no text, or its value fails to
give a number under a label that counts. -/
inductive EntryStops (entry : Value × Value) : Fault → Prop
  | key {fault : Fault} (noText : entry.1.plain = .error fault) : EntryStops entry fault
  | overflow {name : Text} {label : WeightLabel} {n : Int} (named : entry.1.plain = .ok name)
      (known : name.capitals = [label.letter]) (value : entry.2 = .int n)
      (large : Binary64.overflowBound ≤ n.natAbs) : EntryStops entry .weightOverflow
  | number {name : Text} {label : WeightLabel} {o : Foreign} {fault : Fault}
      (named : entry.1.plain = .ok name) (known : name.capitals = [label.letter])
      (value : entry.2 = .other o) (raised : o.number = .error fault)
      (unhandled : fault.deniesNumber = false) : EntryStops entry fault

/-- Weights all of whose conversions succeed. -/
def Convertible (m : List (Value × Value)) : Prop := ∀ entry ∈ m, ∀ fault, ¬ EntryStops entry fault

/-- **Weights that are stopped**, at the first entry at which they are. -/
def WeightsStop (m : List (Value × Value)) (fault : Fault) : Prop :=
  ∃ before entry after, m = before ++ entry :: after ∧ Convertible before ∧ EntryStops entry fault

section Entry

variable {entry : Value × Value} {name : Text} (named : entry.1.plain = .ok name)
include named

/-- Behind the text of a key the label decides first. -/
theorem readWeight_of_named :
    readWeight entry = (WeightLabel.ofText? name).elim (.ok (.rejected .unknownWeightLabel))
      fun label => entry.2.asNumber?.map (WeightEntry.ofNumber label) := by
  rw [readWeight, named]
  simp only [bind, Except.bind]
  cases WeightLabel.ofText? name <;> rfl

/-- Under a label that counts, the value decides. -/
theorem readWeight_of_known {label : WeightLabel} (known : name.capitals = [label.letter]) :
    readWeight entry = entry.2.asNumber?.map (WeightEntry.ofNumber label) := by
  rw [readWeight_of_named named, WeightLabel.ofText?_eq_some_iff.mpr known, Option.elim_some]

/-- Under any other text, the value does not matter. -/
theorem readWeight_of_unknown (unknown : ∀ label : WeightLabel, name.capitals ≠ [label.letter]) :
    readWeight entry = .ok (.rejected .unknownWeightLabel) := by
  have hnone : WeightLabel.ofText? name = none := by
    apply Option.eq_none_iff_forall_ne_some.mpr
    intro label hlabel
    exact unknown label (WeightLabel.ofText?_eq_some_iff.mp hlabel)
  rw [readWeight_of_named named, hnone, Option.elim_none]

end Entry

/-- **What an entry comes to**: it gives a number, has an unknown label or a value that is no number,
or it stops the reading. -/
theorem readWeight_cases (entry : Value × Value) :
    (∃ label x, Gives label x entry ∧ readWeight entry = .ok (.accepted label x)) ∨
      (∃ name, entry.1.plain = .ok name ∧
        (∀ label : WeightLabel, name.capitals ≠ [label.letter]) ∧
        readWeight entry = .ok (.rejected .unknownWeightLabel)) ∨
      (∃ (name : Text) (label : WeightLabel), entry.1.plain = .ok name ∧
        name.capitals = [label.letter] ∧ entry.2.asNumber? = .ok none ∧
        readWeight entry = .ok (.rejected .weightNotNumber)) ∨
      ∃ fault, EntryStops entry fault ∧ readWeight entry = .error fault := by
  cases hname : entry.1.plain with
  | error fault =>
      refine Or.inr (Or.inr (Or.inr ⟨fault, .key hname, ?_⟩))
      rw [readWeight, hname]
      rfl
  | ok name =>
      by_cases hknown : ∃ label : WeightLabel, name.capitals = [label.letter]
      · obtain ⟨label, hlabel⟩ := hknown
        have hread := readWeight_of_known hname hlabel
        cases hnumber : entry.2.asNumber? with
        | ok number =>
            rw [hnumber] at hread
            cases number with
            | some x => exact Or.inl ⟨label, x, ⟨name, hname, hlabel, hnumber⟩, hread⟩
            | none => exact Or.inr (Or.inr (Or.inl ⟨name, label, rfl, hlabel, rfl, hread⟩))
        | error fault =>
            rw [hnumber] at hread
            refine Or.inr (Or.inr (Or.inr ⟨fault, ?_, hread⟩))
            rcases Value.asNumber?_eq_error_iff.mp hnumber with
              ⟨rfl, n, hvalue, hlarge⟩ | ⟨o, hvalue, hraised, hdenies⟩
            · exact .overflow hname hlabel hvalue hlarge
            · exact .number hname hlabel hvalue hraised hdenies
      · have hunknown : ∀ label : WeightLabel, name.capitals ≠ [label.letter] :=
          fun label h => hknown ⟨label, h⟩
        exact Or.inr (Or.inl ⟨name, rfl, hunknown, readWeight_of_unknown hname hunknown⟩)

/-- An entry stops the reading exactly where it fails. -/
theorem readWeight_eq_error_iff {entry : Value × Value} {fault : Fault} :
    readWeight entry = .error fault ↔ EntryStops entry fault := by
  constructor
  · intro h
    rcases readWeight_cases entry with ⟨_, _, -, hread⟩ | ⟨_, -, -, hread⟩ | ⟨_, _, -, -, -, hread⟩ |
      ⟨fault', hstops, hread⟩
    all_goals
      rw [hread] at h
      cases h
    exact hstops
  · intro h
    cases h with
    | key noText =>
        rw [readWeight, noText]
        rfl
    | overflow named known value large =>
        have hnumber : entry.2.asNumber? = .error .weightOverflow :=
          Value.asNumber?_eq_error_iff.mpr (Or.inl ⟨rfl, _, value, large⟩)
        rw [readWeight_of_known named known, hnumber]
        rfl
    | number named known value raised unhandled =>
        have hnumber : entry.2.asNumber? = .error fault :=
          Value.asNumber?_eq_error_iff.mpr (Or.inr ⟨_, value, raised, unhandled⟩)
        rw [readWeight_of_known named known, hnumber]
        rfl

/-- The number that an entry writes, with its label. -/
def number? (entry : Value × Value) : Option (WeightLabel × Binary64) :=
  match readWeight entry with
  | .ok (.accepted label x) => some (label, x)
  | _ => none

/-- The warning that an entry leaves. -/
def complaint? (entry : Value × Value) : Option Warning :=
  match readWeight entry with
  | .ok (.rejected warning) => some warning
  | _ => none

/-- What an entry writes is the number that it gives. -/
theorem number?_eq_some_iff {entry : Value × Value} {label : WeightLabel} {x : Binary64} :
    number? entry = some (label, x) ↔ Gives label x entry := by
  constructor
  · intro h
    rw [number?] at h
    rcases readWeight_cases entry with ⟨_, _, hgives, hread⟩ | ⟨_, -, -, hread⟩ |
      ⟨_, _, -, -, -, hread⟩ | ⟨_, -, hread⟩
    all_goals
      rw [hread] at h
      cases h
    exact hgives
  · rintro ⟨name, hname, hlabel, hnumber⟩
    rw [number?, readWeight_of_known hname hlabel, hnumber]
    rfl

/-! ## All entries -/

/-- The conversions of all entries succeed, or there is a first one that fails. -/
theorem convertible_or_stops (m : List (Value × Value)) :
    Convertible m ∨ ∃ fault, WeightsStop m fault := by
  induction m with
  | nil => exact Or.inl (List.forall_mem_nil _)
  | cons entry rest ih =>
      by_cases hstops : ∃ fault, EntryStops entry fault
      · obtain ⟨fault, hfault⟩ := hstops
        exact Or.inr ⟨fault, [], entry, rest, rfl, List.forall_mem_nil _, hfault⟩
      · have hentry := not_exists.mp hstops
        rcases ih with hrest | ⟨fault, before, later, after, rfl, hbefore, hlater⟩
        · exact Or.inl (List.forall_mem_cons.mpr ⟨hentry, hrest⟩)
        · exact Or.inr ⟨fault, entry :: before, later, after, rfl,
            List.forall_mem_cons.mpr ⟨hentry, hbefore⟩, hlater⟩

/-- **One entry behind others**: it writes its number, leaves a warning or stops the reading. -/
theorem readEntries_cons (weights : Weights) (entry : Value × Value)
    (rest : List (Value × Value)) :
    readEntries weights (entry :: rest) =
      match readWeight entry with
      | .ok (.accepted label x) => readEntries (weights.write label x) rest
      | .ok (.rejected warning) => (readEntries weights rest).after [warning]
      | .error fault => refusal fault :=
  rfl

/-- The weights that entries write, one after another. -/
def weightsOf (m : List (Value × Value)) : Weights := .ofPairs (m.filterMap number?)

/-- **Where every conversion succeeds, every entry writes its number or leaves its warning.**  By
induction over the entries, with the weights open. -/
theorem readEntries_of_convertible {m : List (Value × Value)} (h : Convertible m)
    (weights : Weights) :
    readEntries weights m =
      .answer (some ((m.filterMap number?).foldl (fun ws pair => ws.write pair.1 pair.2) weights))
        (m.filterMap complaint?) := by
  induction m generalizing weights with
  | nil => rfl
  | cons entry rest ih =>
      obtain ⟨hentry, hrest⟩ := List.forall_mem_cons.mp h
      rw [readEntries_cons, List.filterMap_cons, List.filterMap_cons, number?, complaint?]
      rcases readWeight_cases entry with ⟨label, x, -, hread⟩ | ⟨_, -, -, hread⟩ |
        ⟨_, _, -, -, -, hread⟩ | ⟨fault, hstops, -⟩
      · rw [hread]
        exact ih hrest (weights.write label x)
      · rw [hread]
        exact congrArg (Outcome.after [.unknownWeightLabel]) (ih hrest weights)
      · rw [hread]
        exact congrArg (Outcome.after [.weightNotNumber]) (ih hrest weights)
      · exact absurd hstops (hentry fault)

/-- Every weight is the clamp of a number that an entry gives. -/
theorem gives_of_mem_weightsOf {m : List (Value × Value)} {label : WeightLabel} {w : Binary64}
    (h : (label, w) ∈ (weightsOf m).entries) :
    ∃ entry ∈ m, ∃ x, Gives label x entry ∧ w = x.clampUnit := by
  rw [weightsOf, Weights.entries_ofPairs] at h
  obtain ⟨pair, hpair, hclamp⟩ := List.mem_map.mp (Entries.mem_of_mem_ofPairs h)
  obtain ⟨entry, hentry, hnumber⟩ := List.mem_filterMap.mp hpair
  cases hclamp
  exact ⟨entry, hentry, pair.2, number?_eq_some_iff.mp hnumber, rfl⟩

/-- **Where a conversion fails, the weights come to what it failed for**: it refuses them, or fails the
reading. -/
theorem exists_readEntries_of_stops {m : List (Value × Value)} {fault : Fault}
    (h : WeightsStop m fault) (weights : Weights) :
    ∃ warnings, readEntries weights m = (refusal fault).after warnings := by
  obtain ⟨before, entry, after, rfl, hbefore, hentry⟩ := h
  induction before generalizing weights with
  | nil =>
      refine ⟨[], ?_⟩
      rw [List.nil_append, readEntries_cons, readWeight_eq_error_iff.mpr hentry, Outcome.after_nil]
  | cons first before ih =>
      obtain ⟨hfirst, hmore⟩ := List.forall_mem_cons.mp hbefore
      rw [List.cons_append, readEntries_cons]
      rcases readWeight_cases first with ⟨label, x, -, hread⟩ | ⟨_, -, -, hread⟩ |
        ⟨_, _, -, -, -, hread⟩ | ⟨fault', hstops, -⟩
      · rw [hread]
        exact ih (weights.write label x) hmore
      · obtain ⟨warnings, hrest⟩ := ih weights hmore
        exact ⟨.unknownWeightLabel :: warnings, by rw [hread, hrest]; exact Outcome.after_after ..⟩
      · obtain ⟨warnings, hrest⟩ := ih weights hmore
        exact ⟨.weightNotNumber :: warnings, by rw [hread, hrest]; exact Outcome.after_after ..⟩
      · exact absurd hstops (hfirst fault')

/-! ## Refusals -/

/-- What refuses a field leaves it without a value. -/
theorem refusal_of_refuses {α : Type} {fault : Fault} (h : fault.refusesField = true) :
    (refusal fault : Outcome (Option α)) = .answer none [] := by
  rw [refusal, if_pos h]
  rfl

/-- What does not refuse a field fails the reading. -/
theorem refusal_of_not_refuses {α : Type} {fault : Fault} (h : fault.refusesField = false) :
    (refusal fault : Outcome (Option α)) = .fault fault := by
  rw [refusal, if_neg (by simp [h])]

/-- A refusal is no answer with a value. -/
theorem refusal_after_ne_answer {α : Type} {fault : Fault} {ws vs : List Warning} {a : α} :
    (refusal fault : Outcome (Option α)).after ws ≠ .answer (some a) vs := by
  intro h
  cases hrefuses : fault.refusesField with
  | true =>
      rw [refusal_of_refuses hrefuses] at h
      cases h
  | false =>
      rw [refusal_of_not_refuses hrefuses] at h
      cases h

/-! ## Fields -/

/-- **A conversion that stops the reader of a field** of rank options. -/
inductive FieldStops (entries : List (Value × Value)) : Fault → Prop
  | function {v : Value} {fault : Fault} (given : field? "_f" "function" entries = some v)
      (noText : v.plain = .error fault) (otherwise : fault.nature ≠ .value) :
      FieldStops entries fault
  | weights {m : List (Value × Value)} {fault : Fault}
      (given : field? "_w" "weights" entries = some (.mapping m)) (stops : WeightsStop m fault) :
      FieldStops entries fault

/-- The ranking function that a value names. -/
def function? : Value → Option RankFunction
  | .function f => some f
  | v =>
    match v.plain with
    | .ok name => RankFunction.ofName? name
    | .error _ => none

/-- A value that is no ranking function goes by its text. -/
theorem readFunction_some {v : Value} (h : ∀ f, v ≠ .function f) :
    readFunction (some v) =
      match v.plain with
      | .ok name =>
        match RankFunction.ofName? name with
        | some f => pure (some f)
        | none => .instead (some .frequency) .unsupportedRankFunction
      | .error fault =>
        if fault.nature = .value then .instead (some .frequency) .unsupportedRankFunction
        else refusal fault := by
  cases v with
  | function f => exact absurd rfl (h f)
  | null | bool | int | float | text | octets | list | tuple | mapping | rankOptions
  | searchOptions | other => rfl

/-- The function that such a value names is that of its text. -/
theorem function?_of_plain {v : Value} (h : ∀ f, v ≠ .function f) :
    function? v =
      match v.plain with
      | .ok name => RankFunction.ofName? name
      | .error _ => none := by
  cases v with
  | function f => exact absurd rfl (h f)
  | null | bool | int | float | text | octets | list | tuple | mapping | rankOptions
  | searchOptions | other => rfl

/-- A value without a text stops the function, unless the complaint is about the value. -/
theorem readFunction_of_no_text {v : Value} {fault : Fault} (noText : v.plain = .error fault)
    (otherwise : fault.nature ≠ .value) : readFunction (some v) = refusal fault := by
  have hfunction : ∀ f, v ≠ .function f := by
    rintro f rfl
    cases noText
  rw [readFunction_some hfunction, noText]
  exact if_neg otherwise

/-- A ranking function is read, the default one from what names none, or a conversion stops it. -/
theorem readFunction_cases (field : Option Value) :
    (∃ warnings, readFunction field =
      .answer (some ((field.bind function?).getD ({} : RankOptions).function)) warnings) ∨
      ∃ v fault, field = some v ∧ v.plain = .error fault ∧ fault.nature ≠ .value ∧
        readFunction field = refusal fault := by
  cases field with
  | none => exact Or.inl ⟨[], rfl⟩
  | some v =>
      by_cases hfunction : ∃ f, v = .function f
      · obtain ⟨f, rfl⟩ := hfunction
        exact Or.inl ⟨[], rfl⟩
      · have hv := not_exists.mp hfunction
        rw [Option.bind_some, readFunction_some hv, function?_of_plain hv]
        cases hplain : v.plain with
        | ok name =>
            refine Or.inl ?_
            cases hname : RankFunction.ofName? name with
            | some f => exact ⟨[], by simp [hname]⟩
            | none => exact ⟨_, by simp only [hname]; rfl⟩
        | error fault =>
            by_cases hvalue : fault.nature = .value
            · exact Or.inl ⟨_, by simp only [if_pos hvalue]; rfl⟩
            · exact Or.inr ⟨v, fault, rfl, hplain, hvalue, by simp only [if_neg hvalue]⟩

/-- What is no mapping gives no weights. -/
theorem exists_readWeights_of_not_mapping {field : Option Value}
    (h : ∀ m, field ≠ some (.mapping m)) :
    ∃ warnings, readWeights field = .answer (some none) warnings := by
  match field with
  | some (.mapping m) => exact absurd rfl (h m)
  | none | some .null | some (.bool _) | some (.int _) | some (.float _) | some (.text _)
  | some (.octets _) | some (.list _) | some (.tuple _) | some (.function _)
  | some (.rankOptions _) | some (.searchOptions _) | some (.other _) => exact ⟨_, rfl⟩

/-- What a mapping of weights comes to is what its entries come to. -/
theorem readWeights_mapping (m : List (Value × Value)) :
    readWeights (some (.mapping m)) = Option.map some <$> readEntries .empty m := rfl

/-- What stops the weights of a mapping decides what is read of them. -/
theorem exists_readWeights_of_stops {m : List (Value × Value)} {fault : Fault}
    (h : WeightsStop m fault) :
    ∃ warnings, readWeights (some (.mapping m)) = (refusal fault).after warnings := by
  obtain ⟨warnings, hread⟩ := exists_readEntries_of_stops h .empty
  refine ⟨warnings, ?_⟩
  rw [readWeights_mapping, hread]
  cases hrefuses : fault.refusesField with
  | true =>
      rw [refusal_of_refuses hrefuses, refusal_of_refuses hrefuses]
      exact congrArg (Outcome.answer none) (List.append_nil (warnings ++ []))
  | false =>
      rw [refusal_of_not_refuses hrefuses, refusal_of_not_refuses hrefuses]
      rfl

/-- Weights whose conversions all succeed are what their entries write, with the warnings that they
leave. -/
theorem readWeights_of_convertible {m : List (Value × Value)} (h : Convertible m) :
    readWeights (some (.mapping m)) =
      .answer (some (some (weightsOf m))) (m.filterMap complaint?) := by
  rw [readWeights_mapping, readEntries_of_convertible h]
  exact congrArg (Outcome.answer _) (List.append_nil _)

/-- The normalization that a value gives. -/
def normalization? : Value → Option Int
  | .int n => some n
  | _ => none

/-- A normalization is read always, none from what is no integer. -/
theorem exists_readNormalization (field : Option Value) :
    ∃ warnings, readNormalization field = .answer (field.bind normalization?) warnings := by
  match field with
  | none | some .null | some (.bool _) | some (.int _) | some (.float _) | some (.text _)
  | some (.octets _) | some (.list _) | some (.tuple _) | some (.mapping _) | some (.function _)
  | some (.rankOptions _) | some (.searchOptions _) | some (.other _) => exact ⟨_, rfl⟩

end Rank

end FullTextSearch
