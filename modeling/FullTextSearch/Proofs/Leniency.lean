/-
# `FullTextSearch.Proofs.Leniency` — options never fail a search, but for a failing conversion.

Whatever cannot be used among rank options or search options is replaced by a default.  A field that
a conversion refuses takes its whole mapping with it, so all defaults are left (`Refused`).  A
conversion that fails for anything else fails the reading of the rank options, and with them that of
the search options around them (`Fails`).  An integer weight without a finite number is of the second
sort: it escapes the repair.

The main statement is `read_unless_conversion_fails`: options of any value are read exactly if no
conversion fails them, and what is read keeps the defaults of all that cannot be used.  It is made of
one inversion for each reader: of a mapping of rank options (`ofEntries_cases`) and of any value.
-/
import FullTextSearch.Proofs.FieldReading
import FullTextSearch.Search.Options
import FullTextSearch.Value.Standard

namespace FullTextSearch

namespace Rank

/-! ## Rank options -/

section Validation

variable (lib : Validation)

/-- **The values that stand for a vector or for none**: a missing value, null, and what the validation
takes for a text. -/
inductive VectorLike : Option Value → Prop
  | absent : VectorLike none
  | null : VectorLike (some .null)
  | taken {v : Value} {t : Text} (text : lib.text? v = some t) : VectorLike (some v)

/-- **A mapping that is refused**: a conversion in the reader of a field complains about a value, or
breaks an assertion, or the vector is neither a text nor missing. -/
inductive Refused (entries : List (Value × Value)) : Prop
  | field {fault : Fault} (stops : FieldStops entries fault) (refuses : fault.refusesField = true)
  | vector (notVector : ¬ VectorLike lib (Value.field? "tsv".toList entries))

/-- **The fields of rank options that a mapping gives**: the default where a value cannot be used, and
weights of usable entries only. -/
structure FieldsOf (entries : List (Value × Value)) (o : RankOptions) : Prop where
  accepted : ¬ Refused lib entries
  function : o.function =
    ((field? "_f" "function" entries).bind function?).getD ({} : RankOptions).function
  noWeights : (∀ m, field? "_w" "weights" entries ≠ some (.mapping m)) → o.weights = none
  weights : ∀ m, field? "_w" "weights" entries = some (.mapping m) →
    o.weights = some (weightsOf m) ∧ ∀ label w, (label, w) ∈ (weightsOf m).entries →
      ∃ entry ∈ m, ∃ x, Gives label x entry ∧ w = x.clampUnit
  normalization : o.normalization = (field? "_n" "normalization" entries).bind normalization?
  tsv : readTsv? lib (Value.field? "tsv".toList entries) = some o.tsv

/-- The object that decoded JSON text spells. -/
def object? : Option Value → Option (List (Value × Value))
  | some (.mapping entries) => some entries
  | _ => none

/-- The mapping that a value spells, itself or as JSON text. -/
def entries? : Value → Option (List (Value × Value))
  | .mapping entries => some entries
  | .text t => object? (lib.decode? t)
  | .octets bytes => object? (lib.decodeOctets? bytes)
  | .function f => object? (lib.decode? f.name)
  | _ => none

/-- **What rank options are read from a value.**  Options that were checked before are kept.  A value
that spells no mapping, and a mapping that is refused, leave all the defaults; of any other mapping
each field that cannot be used is the default. -/
inductive ReadFrom : Value → RankOptions → Prop
  | checked {o : RankOptions} : ReadFrom (.rankOptions o) o
  | unusable {v : Value} (unchecked : ∀ o, v ≠ .rankOptions o) (noMapping : entries? lib v = none) :
      ReadFrom v {}
  | refused {v : Value} {entries : List (Value × Value)} (mapping : entries? lib v = some entries)
      (refused : Refused lib entries) : ReadFrom v {}
  | fields {v : Value} {entries : List (Value × Value)} {o : RankOptions}
      (mapping : entries? lib v = some entries) (fields : FieldsOf lib entries o) : ReadFrom v o

/-- **A value that a conversion fails**: neither a default nor a refusal stands in for it. -/
def Fails (v : Value) : Prop :=
  ∃ entries fault, entries? lib v = some entries ∧ FieldStops entries fault ∧
    fault.refusesField = false

end Validation

/-- A field of a mapping of this library's own kinds is of one of them. -/
theorem own_of_field {short long : String} {entries : List (Value × Value)}
    (h : Value.OwnEntries entries) {v : Value} (hv : field? short long entries = some v) :
    v.Own := by
  rw [field?, Option.or_eq_some_iff] at hv
  rcases hv with hshort | ⟨-, hlong⟩
  · exact Value.own_of_field h hshort
  · exact Value.own_of_field h hlong

section Reading

variable {lib : Validation}

/-- A vector that is not null is what the validation takes for a text. -/
theorem readTsv?_of_ne_null {v : Value} (h : v ≠ .null) :
    readTsv? lib (some v) = (lib.text? v).map some := by
  cases v with
  | null => exact absurd rfl h
  | bool | int | float | text | octets | list | tuple | mapping | function | rankOptions
  | searchOptions | other => rfl

/-- A vector is read exactly from the values that stand for one. -/
theorem readTsv?_ne_none_iff {field : Option Value} :
    readTsv? lib field ≠ none ↔ VectorLike lib field := by
  cases field with
  | none => exact iff_of_true (Option.some_ne_none none) .absent
  | some v =>
      by_cases hnull : v = .null
      · subst hnull
        exact iff_of_true (Option.some_ne_none none) .null
      · rw [readTsv?_of_ne_null hnull, Ne, Option.map_eq_none_iff]
        constructor
        · intro h
          obtain ⟨t, htaken⟩ := Option.ne_none_iff_exists'.mp h
          exact .taken htaken
        · rintro (_ | _ | ⟨htaken⟩) hrefused
          · exact hnull rfl
          · rw [htaken] at hrefused
            cases hrefused

/-- **What the ranking function comes to** among the fields of a mapping. -/
theorem readFunction_field_cases (entries : List (Value × Value)) :
    (∃ fs, readFunction (field? "_f" "function" entries) =
      .answer (some (((field? "_f" "function" entries).bind function?).getD
        ({} : RankOptions).function)) fs) ∨
      ∃ fault, FieldStops entries fault ∧
        readFunction (field? "_f" "function" entries) = refusal fault := by
  rcases readFunction_cases (field? "_f" "function" entries) with
    hread | ⟨v, fault, hgiven, hplain, hnature, hread⟩
  · exact Or.inl hread
  · exact Or.inr ⟨fault, .function hgiven hplain hnature, hread⟩

/-- **What the weights come to** among the fields of a mapping. -/
theorem readWeights_field_cases (entries : List (Value × Value)) :
    (∃ given ws, readWeights (field? "_w" "weights" entries) = .answer (some given) ws ∧
      ((∀ m, field? "_w" "weights" entries ≠ some (.mapping m)) → given = none) ∧
      ∀ m, field? "_w" "weights" entries = some (.mapping m) → given = some (weightsOf m)) ∨
      ∃ fault ws, FieldStops entries fault ∧
        readWeights (field? "_w" "weights" entries) = (refusal fault).after ws := by
  by_cases hmapping : ∃ m, field? "_w" "weights" entries = some (.mapping m)
  · obtain ⟨m, hm⟩ := hmapping
    rcases convertible_or_stops m with hconvertible | ⟨fault, hstops⟩
    · refine Or.inl ⟨some (weightsOf m), _, by rw [hm, readWeights_of_convertible hconvertible],
        fun hnone => absurd hm (hnone m), ?_⟩
      intro m' hm'
      rw [hm] at hm'
      cases hm'
      rfl
    · obtain ⟨ws, hread⟩ := exists_readWeights_of_stops hstops
      exact Or.inr ⟨fault, ws, .weights hm hstops, by rw [hm, hread]⟩
  · have hnone := not_exists.mp hmapping
    obtain ⟨ws, hread⟩ := exists_readWeights_of_not_mapping hnone
    exact Or.inl ⟨none, ws, hread, fun _ => rfl, fun m hm => absurd hm (hnone m)⟩

/-- A field whose reader is stopped gives no value. -/
theorem not_fieldStops_of_reads {entries : List (Value × Value)} {f : RankFunction}
    {given : Option Weights} {fs ws : List Warning}
    (hf : readFunction (field? "_f" "function" entries) = .answer (some f) fs)
    (hw : readWeights (field? "_w" "weights" entries) = .answer (some given) ws) (fault : Fault) :
    ¬ FieldStops entries fault := by
  rintro (⟨hgiven, noText, otherwise⟩ | ⟨hgiven, stops⟩)
  · rw [hgiven, readFunction_of_no_text noText otherwise, ← Outcome.after_nil (refusal _)] at hf
    exact refusal_after_ne_answer hf
  · obtain ⟨vs, hread⟩ := exists_readWeights_of_stops stops
    rw [hgiven, hread] at hw
    exact refusal_after_ne_answer hw

/-- Where both are read and the vector is taken, nothing is refused. -/
theorem not_refused_of_reads {entries : List (Value × Value)} {f : RankFunction}
    {given : Option Weights} {fs ws : List Warning}
    (hf : readFunction (field? "_f" "function" entries) = .answer (some f) fs)
    (hw : readWeights (field? "_w" "weights" entries) = .answer (some given) ws)
    (hvector : VectorLike lib (Value.field? "tsv".toList entries)) : ¬ Refused lib entries := by
  rintro (⟨hstops, -⟩ | hnone)
  · exact not_fieldStops_of_reads hf hw _ hstops
  · exact hnone hvector

variable (lib) in
/-- Where the function and the weights are read or refused, the mapping gives its fields, or all
defaults where any field is refused. -/
theorem exists_ofEntries {entries : List (Value × Value)} {function : Option RankFunction}
    {weights : Option (Option Weights)} {fs ws : List Warning}
    (hf : readFunction (field? "_f" "function" entries) = .answer function fs)
    (hw : readWeights (field? "_w" "weights" entries) = .answer weights ws) :
    ∃ warnings, ofEntries lib entries = .answer
      (match function, weights, readTsv? lib (Value.field? "tsv".toList entries) with
        | some function, some weights, some tsv =>
          { function, weights, tsv
            normalization := (field? "_n" "normalization" entries).bind normalization? }
        | _, _, _ => {}) warnings := by
  obtain ⟨ns, hn⟩ := exists_readNormalization (field? "_n" "normalization" entries)
  rw [ofEntries, hf, hw, hn, Outcome.answer_bind, Outcome.answer_bind, Outcome.answer_bind]
  cases function with
  | none => exact ⟨_, rfl⟩
  | some function =>
      cases weights with
      | none => exact ⟨_, rfl⟩
      | some weights =>
          cases readTsv? lib (Value.field? "tsv".toList entries) with
          | none => exact ⟨_, rfl⟩
          | some tsv => exact ⟨_, rfl⟩

variable (lib) in
/-- **What a mapping comes to**: its fields, all defaults where it is refused, or a fault. -/
theorem ofEntries_cases (entries : List (Value × Value)) :
    (∃ o warnings, ofEntries lib entries = .answer o warnings ∧ FieldsOf lib entries o) ∨
      (Refused lib entries ∧ ∃ warnings, ofEntries lib entries = .answer {} warnings) ∨
      ∃ fault, FieldStops entries fault ∧ fault.refusesField = false ∧
        ofEntries lib entries = .fault fault := by
  rcases readFunction_field_cases entries with ⟨fs, hf⟩ | ⟨fault, hstops, hf⟩
  · rcases readWeights_field_cases entries with ⟨given, ws, hw, hnone, hgiven⟩ |
      ⟨fault, ws, hstops, hw⟩
    · obtain ⟨warnings, hread⟩ := exists_ofEntries lib hf hw
      cases htsv : readTsv? lib (Value.field? "tsv".toList entries) with
      | none =>
          rw [htsv] at hread
          exact Or.inr (Or.inl ⟨.vector fun h => readTsv?_ne_none_iff.mpr h htsv, warnings, hread⟩)
      | some tsv =>
          rw [htsv] at hread
          have hvector : VectorLike lib (Value.field? "tsv".toList entries) := by
            rw [← readTsv?_ne_none_iff, htsv]
            exact Option.some_ne_none tsv
          exact Or.inl ⟨_, warnings, hread, ⟨not_refused_of_reads hf hw hvector, rfl, hnone,
            fun m hm => ⟨hgiven m hm, fun label w => gives_of_mem_weightsOf⟩, rfl, htsv⟩⟩
    · cases hrefuses : fault.refusesField with
      | true =>
          rw [refusal_of_refuses hrefuses] at hw
          exact Or.inr (Or.inl ⟨.field hstops hrefuses, exists_ofEntries lib hf hw⟩)
      | false =>
          rw [refusal_of_not_refuses hrefuses] at hw
          exact Or.inr (Or.inr ⟨fault, hstops, hrefuses, by rw [ofEntries, hf, hw]; rfl⟩)
  · cases hrefuses : fault.refusesField with
    | false =>
        rw [refusal_of_not_refuses hrefuses] at hf
        exact Or.inr (Or.inr ⟨fault, hstops, hrefuses, by rw [ofEntries, hf]; rfl⟩)
    | true =>
        rw [refusal_of_refuses hrefuses] at hf
        -- the function is refused; the weights may still fail the reading
        rcases readWeights_field_cases entries with ⟨given, ws, hw, -, -⟩ |
          ⟨later, ws, hlater, hw⟩
        · exact Or.inr (Or.inl ⟨.field hstops hrefuses, exists_ofEntries lib hf hw⟩)
        · cases hrefuses' : later.refusesField with
          | true =>
              rw [refusal_of_refuses hrefuses'] at hw
              exact Or.inr (Or.inl ⟨.field hstops hrefuses, exists_ofEntries lib hf hw⟩)
          | false =>
              rw [refusal_of_not_refuses hrefuses'] at hw
              exact Or.inr (Or.inr ⟨later, hlater, hrefuses', by rw [ofEntries, hf, hw]; rfl⟩)

/-- A mapping fails exactly where a conversion does that refuses nothing. -/
theorem exists_ofEntries_eq_fault_iff {entries : List (Value × Value)} :
    (∃ fault, ofEntries lib entries = .fault fault) ↔
      ∃ fault, FieldStops entries fault ∧ fault.refusesField = false := by
  constructor
  · rintro ⟨fault, h⟩
    rcases ofEntries_cases lib entries with ⟨_, _, hread, -⟩ | ⟨-, _, hread⟩ |
      ⟨fault', hstops, hrefuses, -⟩
    · rw [hread] at h
      cases h
    · rw [hread] at h
      cases h
    · exact ⟨fault', hstops, hrefuses⟩
  · rintro ⟨fault, ⟨hgiven, noText, otherwise⟩ | ⟨hgiven, stops⟩, hrefuses⟩
    · refine ⟨fault, ?_⟩
      rw [ofEntries, hgiven, readFunction_of_no_text noText otherwise,
        refusal_of_not_refuses hrefuses]
      rfl
    · obtain ⟨_, hread⟩ := exists_readWeights_of_stops stops
      rw [refusal_of_not_refuses hrefuses] at hread
      -- the function is read first, and may fail for something else
      cases hf : readFunction (field? "_f" "function" entries) with
      | answer => exact ⟨fault, by rw [ofEntries, hf, hgiven, hread]; rfl⟩
      | fault earlier => exact ⟨earlier, by rw [ofEntries, hf]; rfl⟩

/-- JSON text that spells an object is read as that object. -/
theorem ofJson_of_object {decoded : Option Value} {entries : List (Value × Value)}
    (h : object? decoded = some entries) : ofJson lib decoded = ofEntries lib entries := by
  unfold object? at h
  split at h
  · cases h
    rfl
  · cases h

/-- Any other text leaves the defaults. -/
theorem ofJson_of_no_object {decoded : Option Value} (h : object? decoded = none) :
    ofJson lib decoded = .instead {} .invalidRankOptions := by
  unfold ofJson
  split
  · cases h
  · rfl

/-- A value that spells a mapping is read as that mapping. -/
theorem ofValue_of_entries {v : Value} {entries : List (Value × Value)}
    (h : entries? lib v = some entries) : ofValue lib v = ofEntries lib entries := by
  cases v with
  | mapping given =>
      cases h
      rfl
  | text | octets | function => exact ofJson_of_object h
  | null | bool | int | float | list | tuple | rankOptions | searchOptions | other => cases h

/-- A value that spells no mapping is kept if it was checked before, and else leaves the defaults. -/
theorem exists_ofValue_of_no_entries {v : Value} (h : entries? lib v = none) :
    ∃ o warnings, ofValue lib v = .answer o warnings ∧ ReadFrom lib v o := by
  cases v with
  | mapping given => cases h
  | text | octets | function =>
      exact ⟨{}, _, ofJson_of_no_object h, .unusable (by simp) h⟩
  | rankOptions o => exact ⟨o, [], rfl, .checked⟩
  | null | bool | int | float | list | tuple | searchOptions | other =>
      exact ⟨{}, _, rfl, .unusable (by simp) h⟩

/-- The only values that fail are those that a conversion fails. -/
theorem exists_ofValue_eq_fault_iff {v : Value} :
    (∃ fault, ofValue lib v = .fault fault) ↔ Fails lib v := by
  cases hv : entries? lib v with
  | none =>
      obtain ⟨o, warnings, hread, -⟩ := exists_ofValue_of_no_entries hv
      rw [hread]
      constructor
      · rintro ⟨_, h⟩
        cases h
      · rintro ⟨entries, _, hentries, -⟩
        rw [hv] at hentries
        cases hentries
  | some entries =>
      rw [ofValue_of_entries hv, exists_ofEntries_eq_fault_iff, Fails, hv]
      simp

/-- **Of the values of this library's own kinds only an integer weight without a finite number fails.**
A text that is missing refuses the weights, or leaves the default function. -/
theorem fails_iff_of_own {v : Value} {entries : List (Value × Value)}
    (mapping : entries? lib v = some entries) (own : Value.OwnEntries entries) :
    Fails lib v ↔ ∃ m, field? "_w" "weights" entries = some (.mapping m) ∧
      WeightsStop m .weightOverflow := by
  constructor
  · rintro ⟨entries', fault, hentries, hstops, hrefuses⟩
    rw [mapping] at hentries
    cases hentries
    cases hstops with
    | function given noText otherwise =>
        have hfault := Value.failsUnwritable_plain (own_of_field own given) _ noText
        subst hfault
        exact absurd rfl otherwise
    | weights given stops =>
        refine ⟨_, given, ?_⟩
        obtain ⟨before, entry, after, rfl, hbefore, hentry⟩ := stops
        have hown := own_of_field own given
        rw [Value.Own] at hown
        obtain ⟨hkey, hvalue⟩ := Value.own_of_mem hown
          (List.mem_append_right before List.mem_cons_self)
        cases hentry with
        | key noText =>
            have hfault := Value.failsUnwritable_plain hkey _ noText
            subst hfault
            cases hrefuses
        | overflow named known value large =>
            exact ⟨before, entry, after, rfl, hbefore, .overflow named known value large⟩
        | number named known value raised unhandled =>
            rw [value, Value.Own] at hvalue
            exact hvalue.elim
  · rintro ⟨m, given, stops⟩
    exact ⟨entries, .weightOverflow, mapping, .weights given stops, rfl⟩

/-- Whatever is read is what the value gives. -/
theorem readFrom_of_ofValue {v : Value} {o : RankOptions} {warnings : List Warning}
    (h : ofValue lib v = .answer o warnings) : ReadFrom lib v o := by
  cases hv : entries? lib v with
  | none =>
      obtain ⟨_, _, hread, hfrom⟩ := exists_ofValue_of_no_entries hv
      rw [hread] at h
      cases h
      exact hfrom
  | some entries =>
      rw [ofValue_of_entries hv] at h
      rcases ofEntries_cases lib entries with ⟨_, _, hread, hfields⟩ |
        ⟨hrefused, _, hread⟩ | ⟨_, -, -, hread⟩
      all_goals
        rw [hread] at h
        cases h
      · exact .fields hv hfields
      · exact .refused hv hrefused

end Reading

end Rank

namespace Search

/-! ## Search options -/

section Validation

variable (lib : Validation)

/-- **What search options are read from a value.**  They are taken whole or not at all: one field
that cannot be used leaves all the defaults, and so does a value that is no mapping. -/
inductive ReadFrom : Value → SearchOptions → Prop
  | checked {o : SearchOptions} : ReadFrom (.searchOptions o) o
  | unusable {v : Value} (unchecked : ∀ o, v ≠ .searchOptions o)
      (noMapping : ∀ entries, v ≠ .mapping entries) : ReadFrom v .default
  | field {entries : List (Value × Value)} {rank : RankOptions}
      (ranked : Rank.ReadFrom lib ((Value.field? "rank".toList entries).getD .null) rank)
      (unusable : withRank? lib rank entries = none) : ReadFrom (.mapping entries) .default
  | fields {entries : List (Value × Value)} {rank : RankOptions} {o : SearchOptions}
      (ranked : Rank.ReadFrom lib ((Value.field? "rank".toList entries).getD .null) rank)
      (fields : withRank? lib rank entries = some o) : ReadFrom (.mapping entries) o

/-- **A mapping with rank options that a conversion fails.** -/
def Fails (v : Value) : Prop :=
  ∃ entries, v = .mapping entries ∧
    Rank.Fails lib ((Value.field? "rank".toList entries).getD .null)

end Validation

section Reading

variable {lib : Validation}

/-- A mapping fails exactly where its rank options do: the other fields are taken or not. -/
theorem ofEntries_eq_fault_iff {entries : List (Value × Value)} {fault : Fault} :
    ofEntries lib entries = .fault fault ↔
      Rank.ofValue lib ((Value.field? "rank".toList entries).getD .null) = .fault fault := by
  rw [ofEntries, Outcome.bind_eq_fault_iff]
  constructor
  · rintro (h | ⟨rank, _, -, h⟩)
    · exact h
    · split at h
      · cases h
      · cases h
  · intro h
    exact Or.inl h

/-- The only values that fail are mappings whose rank options do. -/
theorem exists_ofValue_eq_fault_iff {v : Value} :
    (∃ fault, ofValue lib v = .fault fault) ↔ Fails lib v := by
  rw [Fails]
  cases v with
  | mapping entries =>
      simp [ofValue, ofEntries_eq_fault_iff, Rank.exists_ofValue_eq_fault_iff]
  | null | bool | int | float | text | octets | list | tuple | function | rankOptions
  | searchOptions | other => simp [ofValue, Outcome.instead]

/-- Whatever is read is what the value gives. -/
theorem readFrom_of_ofValue {v : Value} {o : SearchOptions} {warnings : List Warning}
    (h : ofValue lib v = .answer o warnings) : ReadFrom lib v o := by
  cases v with
  | mapping entries =>
      obtain ⟨rank, _, _, hrank, hfields, -⟩ := Outcome.bind_eq_answer_iff.mp h
      split at hfields
      · next hread =>
          cases hfields
          exact .fields (Rank.readFrom_of_ofValue hrank) hread
      · next hread =>
          cases hfields
          exact .field (Rank.readFrom_of_ofValue hrank) hread
  | searchOptions given =>
      cases h
      exact .checked
  | null | bool | int | float | text | octets | list | tuple | function | rankOptions | other =>
      cases h
      exact .unusable (by simp) (by simp)

/-- What fails in one case only answers in all the others. -/
theorem exists_answer_iff_not {α : Type} {o : Outcome α} {fails : Prop} {good : α → Prop}
    (hfault : (∃ fault, o = .fault fault) ↔ fails)
    (hgood : ∀ {a warnings}, o = .answer a warnings → good a) :
    (∃ a warnings, o = .answer a warnings ∧ good a) ↔ ¬ fails := by
  rw [← hfault]
  cases o with
  | answer a warnings =>
      refine iff_of_true ⟨a, warnings, rfl, hgood rfl⟩ ?_
      rintro ⟨_, h⟩
      cases h
  | fault fault =>
      refine iff_of_false ?_ (not_not_intro ⟨fault, rfl⟩)
      rintro ⟨_, _, h, -⟩
      cases h

end Reading

/-- **Options are read unless a conversion fails.**  Whatever the validation takes values for, rank
options and search options of any value are read exactly if no conversion in the readers fails for
something that refuses nothing, and then what cannot be used is left to the defaults.  Of the values
of this library's own kinds exactly an integer weight without a finite number fails so, at a label
that counts and behind keys that all have texts. -/
theorem read_unless_conversion_fails (lib : Validation) (v : Value) :
    ((∃ o warnings, Rank.ofValue lib v = .answer o warnings ∧ Rank.ReadFrom lib v o) ↔
      ¬ Rank.Fails lib v) ∧
    ((∃ o warnings, ofValue lib v = .answer o warnings ∧ ReadFrom lib v o) ↔ ¬ Fails lib v) ∧
    ∀ entries, Rank.entries? lib v = some entries → Value.OwnEntries entries →
      (Rank.Fails lib v ↔ ∃ m, Rank.field? "_w" "weights" entries = some (.mapping m) ∧
        Rank.WeightsStop m .weightOverflow) := by
  refine ⟨?_, ?_, ?_⟩
  · exact exists_answer_iff_not Rank.exists_ofValue_eq_fault_iff Rank.readFrom_of_ofValue
  · exact exists_answer_iff_not exists_ofValue_eq_fault_iff readFrom_of_ofValue
  · exact fun entries mapping own => Rank.fails_iff_of_own mapping own

/-- A weight of ten to the power of four hundred fails the rank options that hold it. -/
theorem not_read_large_weight :
    ¬ ∀ v : Value, (∃ o warnings, Rank.ofValue .standard v = .answer o warnings) ∧
      ∃ o warnings, ofValue .standard v = .answer o warnings := by
  intro h
  have hlarge : Binary64.overflowBound ≤ (Int.ofNat (Nat.pow 10 400)).natAbs := by decide +kernel
  have known : Text.capitals ['A'] = [WeightLabel.a.letter] := rfl
  let entry : Value × Value := (.text ['A'], .int (Int.ofNat (Nat.pow 10 400)))
  have hstops : Rank.EntryStops entry .weightOverflow :=
    .overflow rfl known rfl hlarge
  have hfails : Rank.Fails .standard (.mapping [(.text "_w".toList, .mapping [entry])]) :=
    ⟨_, .weightOverflow, rfl, .weights rfl ⟨[], entry, [], rfl, List.forall_mem_nil _, hstops⟩, rfl⟩
  obtain ⟨fault, hfault⟩ := Rank.exists_ofValue_eq_fault_iff.mpr hfails
  obtain ⟨o, warnings, hanswer⟩ := (h _).1
  rw [hfault] at hanswer
  cases hanswer

end Search

end FullTextSearch
