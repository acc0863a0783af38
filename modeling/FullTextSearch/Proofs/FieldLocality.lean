/-
# `FullTextSearch.Proofs.FieldLocality` — what one unusable field costs.

Rank options are repaired field by field: each field of what is read depends on the value given for
it and on nothing else, as long as no field is refused (`Refused`); a refused one leaves all the
defaults.  A vector is refused unless it is taken for a text or missing; the other fields are refused
only where a conversion inside their readers complains, as one does for a key among the weights that
has too many digits to write.  Search options are taken whole or not at all: one field that cannot be
used leaves all of the defaults, and the rank options among them have no part in that.

Both are statements about two mappings that agree in a part (`AgreesFieldwise`, `AgreesBesideRank`).
They come from what an answer says of each reader: `FieldsOf` for rank options, and
`takenFrom_of_ofEntries` for search options.  The main statement is `unusable_field_costs_no_other`.
-/
import FullTextSearch.Proofs.Leniency

namespace FullTextSearch

namespace Rank

/-! ## Rank options -/

/-- **Two rank options that agree in every field whose values agree**, each field under its short
name where that is given and under its long name else. -/
structure AgreesFieldwise (d d' : List (Value × Value)) (o o' : RankOptions) : Prop where
  function : field? "_f" "function" d = field? "_f" "function" d' → o.function = o'.function
  weights : field? "_w" "weights" d = field? "_w" "weights" d' → o.weights = o'.weights
  normalization : field? "_n" "normalization" d = field? "_n" "normalization" d' →
    o.normalization = o'.normalization
  tsv : Value.field? "tsv".toList d = Value.field? "tsv".toList d' → o.tsv = o'.tsv

/-- A vector that is a text, which a ranking function counts as too, or null, or missing. -/
inductive PlainVector : Option Value → Prop
  | absent : PlainVector none
  | null : PlainVector (some .null)
  | text (t : Text) : PlainVector (some (.text t))
  | function (f : RankFunction) : PlainVector (some (.function f))

section Fields

variable {lib : Validation} {d d' : List (Value × Value)} {o o' : RankOptions}
  {ws ws' : List Warning}

/-- Unless a field is refused, an answer is made of the fields of the mapping. -/
theorem fieldsOf_of_answer (h : ofEntries lib d = .answer o ws) (accepted : ¬ Refused lib d) :
    FieldsOf lib d o := by
  rcases ofEntries_cases lib d with ⟨_, _, hread, hfields⟩ | ⟨hrefused, -⟩ |
    ⟨_, -, -, hread⟩
  · rw [hread] at h
    cases h
    exact hfields
  · exact absurd hrefused accepted
  · rw [hread] at h
    cases h

/-- A refused field leaves the defaults of all. -/
theorem eq_default_of_refused (h : ofEntries lib d = .answer o ws) (refused : Refused lib d) :
    o = {} := by
  rcases ofEntries_cases lib d with ⟨_, _, -, hfields⟩ | ⟨-, _, hread⟩ | ⟨_, -, -, hread⟩
  · exact absurd refused hfields.accepted
  · rw [hread] at h
    cases h
    rfl
  · rw [hread] at h
    cases h

/-- The weights of a mapping are settled by their field. -/
theorem weights_congr (h : FieldsOf lib d o) (h' : FieldsOf lib d' o')
    (hsame : field? "_w" "weights" d = field? "_w" "weights" d') : o.weights = o'.weights := by
  by_cases hmapping : ∃ m, field? "_w" "weights" d = some (.mapping m)
  · obtain ⟨m, hm⟩ := hmapping
    rw [(h.weights m hm).1, (h'.weights m (hsame ▸ hm)).1]
  · have hnone := not_exists.mp hmapping
    rw [h.noWeights hnone, h'.noWeights (hsame ▸ hnone)]

/-- **Rank options depend field by field on what is given.** -/
theorem agreesFieldwise_of_fieldsOf (h : FieldsOf lib d o) (h' : FieldsOf lib d' o') :
    AgreesFieldwise d d' o o' where
  function := by
    intro hsame
    rw [h.function, h'.function, hsame]
  weights := weights_congr h h'
  normalization := by
    intro hsame
    rw [h.normalization, h'.normalization, hsame]
  tsv := by
    intro hsame
    apply Option.some.inj
    rw [← h.tsv, ← h'.tsv, hsame]

/-- A text, null and a missing vector are never refused, so only a conversion in the reader of another
field refuses a mapping that holds one. -/
theorem fieldStops_of_refused_of_text (h : Refused lib d)
    (hvector : Value.field? "tsv".toList d = none ∨ Value.field? "tsv".toList d = some .null ∨
      ∃ t, Value.field? "tsv".toList d = some (.text t)) :
    ∃ fault, FieldStops d fault ∧ fault.refusesField = true := by
  rcases h with ⟨hstops, hrefuses⟩ | hnone
  · exact ⟨_, hstops, hrefuses⟩
  · refine absurd ?_ hnone
    rcases hvector with hvector | hvector | ⟨t, hvector⟩
    · rw [hvector]
      exact .absent
    · rw [hvector]
      exact .null
    · rw [hvector]
      exact .taken (lib.text?_text t)

end Fields

end Rank

namespace Search

/-! ## Search options -/

section Fields

variable (lib : Validation)

/-- Whether every field beside the rank options can be used. -/
def FieldsUsable (d : List (Value × Value)) : Prop :=
  readOrder? lib (Value.field? "order".toList d) ≠ none ∧
    readHeadline? lib (Value.field? "with_headline".toList d) ≠ none ∧
    readHeadlineOptions? lib (Value.field? "headline_options".toList d) ≠ none ∧
    readConfiguration? lib (Value.field? "with_configuration".toList d) ≠ none

/-- The value given for the rank options, null where none is. -/
def givenRank (d : List (Value × Value)) : Value := (Value.field? "rank".toList d).getD .null

/-- **Search options that are taken whole.**  Every field is read from the value given for it, and
the rank options are read as on their own, with the same warnings. -/
structure TakenFrom (d : List (Value × Value)) (o : SearchOptions) (warnings : List Warning) :
    Prop where
  order : readOrder? lib (Value.field? "order".toList d) = some o.order
  withHeadline : readHeadline? lib (Value.field? "with_headline".toList d) = some o.withHeadline
  headlineOptions : readHeadlineOptions? lib (Value.field? "headline_options".toList d) =
    some o.headlineOptions
  withConfiguration : readConfiguration? lib (Value.field? "with_configuration".toList d) =
    some o.withConfiguration
  rank : Rank.ofValue lib (givenRank d) = .answer o.rank warnings

end Fields

/-- Two mappings that differ in their rank options at most. -/
def AgreesBesideRank (d d' : List (Value × Value)) : Prop :=
  ∀ name, name ≠ "rank".toList → Value.field? name d = Value.field? name d'

section Readings

variable {lib : Validation} {d d' : List (Value × Value)}

/-- All fields are read, or none of them is. -/
theorem withRank?_eq_some_iff {rank : RankOptions} {o : SearchOptions} :
    withRank? lib rank d = some o ↔
      readOrder? lib (Value.field? "order".toList d) = some o.order ∧
        readHeadline? lib (Value.field? "with_headline".toList d) = some o.withHeadline ∧
        readHeadlineOptions? lib (Value.field? "headline_options".toList d) =
          some o.headlineOptions ∧
        readConfiguration? lib (Value.field? "with_configuration".toList d) =
          some o.withConfiguration ∧ o.rank = rank := by
  obtain ⟨order, rank', withHeadline, headlineOptions, withConfiguration⟩ := o
  simp only [withRank?, Option.bind_eq_bind, Option.bind_eq_some_iff, Option.pure_def,
    Option.some_inj, SearchOptions.mk.injEq]
  constructor
  · rintro ⟨_, horder, _, hheadline, _, hoptions, _, hconfiguration, rfl, rfl, rfl, rfl, rfl⟩
    exact ⟨horder, hheadline, hoptions, hconfiguration, rfl⟩
  · rintro ⟨horder, hheadline, hoptions, hconfiguration, rfl⟩
    exact ⟨_, horder, _, hheadline, _, hoptions, _, hconfiguration, rfl, rfl, rfl, rfl, rfl⟩

/-- Search options are taken exactly if all of their own fields are usable. -/
theorem withRank?_ne_none_iff {rank : RankOptions} :
    withRank? lib rank d ≠ none ↔ FieldsUsable lib d := by
  rw [FieldsUsable]
  simp only [Option.ne_none_iff_exists']
  constructor
  · rintro ⟨o, h⟩
    obtain ⟨horder, hheadline, hoptions, hconfiguration, -⟩ := withRank?_eq_some_iff.mp h
    exact ⟨⟨_, horder⟩, ⟨_, hheadline⟩, ⟨_, hoptions⟩, ⟨_, hconfiguration⟩⟩
  · rintro ⟨⟨order, horder⟩, ⟨withHeadline, hheadline⟩, ⟨headlineOptions, hoptions⟩,
      ⟨withConfiguration, hconfiguration⟩⟩
    exact ⟨⟨order, rank, withHeadline, headlineOptions, withConfiguration⟩,
      withRank?_eq_some_iff.mpr ⟨horder, hheadline, hoptions, hconfiguration, rfl⟩⟩

/-- **Search options are taken whole or not at all.** -/
theorem takenFrom_of_ofEntries {o : SearchOptions} {warnings : List Warning}
    (h : ofEntries lib d = .answer o warnings) :
    (FieldsUsable lib d → TakenFrom lib d o warnings) ∧
      (¬ FieldsUsable lib d → o = .default) := by
  obtain ⟨rank, rs, _, hrank, hfields, rfl⟩ := Outcome.bind_eq_answer_iff.mp h
  split at hfields
  · next options hread =>
      cases hfields
      obtain ⟨horder, hheadline, hoptions, hconfiguration, rfl⟩ := withRank?_eq_some_iff.mp hread
      have husable : FieldsUsable lib d := withRank?_ne_none_iff.mp (by rw [hread]; simp)
      rw [List.append_nil]
      exact ⟨fun _ => ⟨horder, hheadline, hoptions, hconfiguration, hrank⟩,
        fun hunusable => absurd husable hunusable⟩
  · next hread =>
      cases hfields
      exact ⟨fun husable => absurd hread (withRank?_ne_none_iff.mpr husable), fun _ => rfl⟩

variable (lib) in
/-- The other fields do not see the rank options. -/
theorem fieldsUsable_congr (h : AgreesBesideRank d d') :
    FieldsUsable lib d ↔ FieldsUsable lib d' := by
  rw [FieldsUsable, FieldsUsable, h _ (by decide), h _ (by decide), h _ (by decide),
    h _ (by decide)]

/-- **What two search options share** that differ in their rank options at most. -/
structure SharesBesideRank (o o' : SearchOptions) : Prop where
  order : o.order = o'.order
  withHeadline : o.withHeadline = o'.withHeadline
  headlineOptions : o.headlineOptions = o'.headlineOptions
  withConfiguration : o.withConfiguration = o'.withConfiguration

/-- Mappings that differ in their rank options at most share all other fields: those are taken from
both or from neither. -/
theorem sharesBesideRank_of_answers {o o' : SearchOptions} {warnings warnings' : List Warning}
    (hsame : AgreesBesideRank d d') (h : ofEntries lib d = .answer o warnings)
    (h' : ofEntries lib d' = .answer o' warnings') : SharesBesideRank o o' := by
  obtain ⟨htaken, hdefault⟩ := takenFrom_of_ofEntries h
  obtain ⟨htaken', hdefault'⟩ := takenFrom_of_ofEntries h'
  by_cases husable : FieldsUsable lib d
  · have hgiven := htaken husable
    have hgiven' := htaken' ((fieldsUsable_congr lib hsame).mp husable)
    refine ⟨?_, ?_, ?_, ?_⟩
    · apply Option.some.inj
      rw [← hgiven.order, ← hgiven'.order, hsame _ (by decide)]
    · apply Option.some.inj
      rw [← hgiven.withHeadline, ← hgiven'.withHeadline, hsame _ (by decide)]
    · apply Option.some.inj
      rw [← hgiven.headlineOptions, ← hgiven'.headlineOptions, hsame _ (by decide)]
    · apply Option.some.inj
      rw [← hgiven.withConfiguration, ← hgiven'.withConfiguration, hsame _ (by decide)]
  · rw [hdefault husable, hdefault' (mt (fieldsUsable_congr lib hsame).mpr husable)]
    exact ⟨rfl, rfl, rfl, rfl⟩

end Readings

/-! ## Both levels -/

/-- **An unusable field costs no other.**  Two readings of rank options agree in every field whose
values agree, whatever else the two mappings hold, as long as no field is refused; a refused one
leaves all the defaults.  A vector that is a text, null or missing is never what refuses a mapping.
Two readings of search options that differ in their rank options at most share all other fields; they
are taken whole, with rank options that are read as on their own, or else nothing of them is left. -/
theorem unusable_field_costs_no_other (lib : Validation) :
    (∀ (d d' : List (Value × Value)) (o o' : RankOptions) (ws ws' : List Warning),
      Rank.ofValue lib (.mapping d) = .answer o ws →
      Rank.ofValue lib (.mapping d') = .answer o' ws' →
      ¬ Rank.Refused lib d → ¬ Rank.Refused lib d' → Rank.AgreesFieldwise d d' o o') ∧
    (∀ (d : List (Value × Value)) (o : RankOptions) (ws : List Warning),
      Rank.ofValue lib (.mapping d) = .answer o ws → Rank.Refused lib d → o = {}) ∧
    (∀ d : List (Value × Value), Rank.Refused lib d →
      (Value.field? "tsv".toList d = none ∨ Value.field? "tsv".toList d = some .null ∨
        ∃ t, Value.field? "tsv".toList d = some (.text t)) →
      ∃ fault, Rank.FieldStops d fault ∧ fault.refusesField = true) ∧
    (∀ (d d' : List (Value × Value)) (o o' : SearchOptions) (ws ws' : List Warning),
      AgreesBesideRank d d' → ofValue lib (.mapping d) = .answer o ws →
      ofValue lib (.mapping d') = .answer o' ws' →
      SharesBesideRank o o' ∧
      (FieldsUsable lib d → TakenFrom lib d o ws ∧ TakenFrom lib d' o' ws') ∧
      (¬ FieldsUsable lib d → o = .default ∧ o' = .default)) := by
  refine ⟨?_, ?_, fun d => Rank.fieldStops_of_refused_of_text, ?_⟩
  · intro d d' o o' ws ws' h h' accepted accepted'
    exact Rank.agreesFieldwise_of_fieldsOf (Rank.fieldsOf_of_answer h accepted)
      (Rank.fieldsOf_of_answer h' accepted')
  · intro d o ws h refused
    exact Rank.eq_default_of_refused h refused
  · intro d d' o o' ws ws' hsame h h'
    obtain ⟨htaken, hdefault⟩ := takenFrom_of_ofEntries h
    obtain ⟨htaken', hdefault'⟩ := takenFrom_of_ofEntries h'
    have husable := fieldsUsable_congr lib hsame
    exact ⟨sharesBesideRank_of_answers hsame h h',
      fun hfields => ⟨htaken hfields, htaken' (husable.mp hfields)⟩,
      fun hfields => ⟨hdefault hfields, hdefault' (mt husable.mpr hfields)⟩⟩

/-- One function under its two names, beside a normalization and weights that cannot be used; then
both as the rank options of one search. -/
theorem unusable_field_costs_no_other_malformed :
    let d : List (Value × Value) := [(.text "_f".toList, .text "ts_rank_cd".toList),
      (.text "_n".toList, .text "x".toList)]
    let d' : List (Value × Value) := [(.text "weights".toList, .int 3),
      (.text "function".toList, .text "ts_rank_cd".toList), (.text "tsv".toList, .null)]
    let e : List (Value × Value) := [(.text "order".toList, .text "rank".toList),
      (.text "rank".toList, .mapping d)]
    let e' : List (Value × Value) := [(.text "rank".toList, .mapping d'),
      (.text "order".toList, .text "rank".toList)]
    ∃ (o o' : RankOptions) (s s' : SearchOptions) (ws ws' : List Warning),
      Rank.ofValue .standard (.mapping d) = .answer o ws ∧
      Rank.ofValue .standard (.mapping d') = .answer o' ws' ∧
      ¬ Rank.Refused .standard d ∧ ¬ Rank.Refused .standard d' ∧
      Rank.AgreesFieldwise d d' o o' ∧ o.function = o'.function ∧
      ofValue .standard (.mapping e) = .answer s ws ∧
      ofValue .standard (.mapping e') = .answer s' ws' ∧
      SharesBesideRank s s' ∧ TakenFrom .standard e s ws ∧ TakenFrom .standard e' s' ws' := by
  intro d d' e e'
  obtain ⟨hrank, -, -, hsearch⟩ := unusable_field_costs_no_other .standard
  have hd : Rank.ofValue .standard (.mapping d) =
      .answer { function := .coverDensity } [.normalizationNotInteger] := by decide
  have hd' : Rank.ofValue .standard (.mapping d') =
      .answer { function := .coverDensity } [.weightsNotMapping] := by decide
  have he : ofValue .standard (.mapping e) =
      .answer ⟨.text "rank".toList, { function := .coverDensity }, .flag false, none, none⟩
        [.normalizationNotInteger] := rfl
  have he' : ofValue .standard (.mapping e') =
      .answer ⟨.text "rank".toList, { function := .coverDensity }, .flag false, none, none⟩
        [.weightsNotMapping] := rfl
  have haccepted : ¬ Rank.Refused .standard d := Rank.not_refused_of_reads rfl rfl .absent
  have haccepted' : ¬ Rank.Refused .standard d' := Rank.not_refused_of_reads rfl rfl .null
  have hagrees := hrank d d' _ _ _ _ hd hd' haccepted haccepted'
  have hbeside : AgreesBesideRank e e' := by
    intro name hname
    rw [Value.field?_text_cons, Value.field?_text_cons, Value.field?_text_cons,
      Value.field?_text_cons, if_neg (Ne.symm hname), if_neg (Ne.symm hname)]
  obtain ⟨hshares, htaken, -⟩ := hsearch e e' _ _ _ _ hbeside he he'
  obtain ⟨hfrom, hfrom'⟩ := htaken ⟨by decide, by decide, Option.some_ne_none none, by decide⟩
  exact ⟨_, _, _, _, _, _, hd, hd', haccepted, haccepted', hagrees, hagrees.function rfl, he, he',
    hshares, hfrom, hfrom'⟩

/-- Ten to the power of the most digits has one digit too many to be written. -/
theorem plain_of_eq_power {n : Nat} (h : n = Nat.pow 10 Numeral.maxDigits) :
    (Value.int (Int.ofNat n)).plain = .error .unwritableNumber := by
  refine if_neg fun hwritable => ?_
  rw [Numeral.writable_iff, ← h] at hwritable
  exact Nat.lt_irrefl n hwritable

/-- A plain vector does not save the fields beside it: a key among the weights that has too many
digits refuses them all.  And a vector of octets is none of the plain ones, and still it is taken for
the text that it spells. -/
theorem refusals_cost_other_fields :
    (¬ ∀ (d d' : List (Value × Value)) (o o' : RankOptions) (ws ws' : List Warning),
      Rank.ofValue .standard (.mapping d) = .answer o ws →
      Rank.ofValue .standard (.mapping d') = .answer o' ws' →
      Rank.PlainVector (Value.field? "tsv".toList d) →
      Rank.PlainVector (Value.field? "tsv".toList d') → Rank.AgreesFieldwise d d' o o') ∧
    ¬ ∀ (d : List (Value × Value)) (o : RankOptions) (ws : List Warning),
      Rank.ofValue .standard (.mapping d) = .answer o ws →
      ¬ Rank.PlainVector (Value.field? "tsv".toList d) → o = {} := by
  constructor
  · intro h
    obtain ⟨long, hlong⟩ : ∃ long : Value, long.plain = .error .unwritableNumber :=
      ⟨_, plain_of_eq_power rfl⟩
    let f : Value × Value := (.text "_f".toList, .text "ts_rank_cd".toList)
    let w : Value × Value := (.text "_w".toList, .mapping [(long, .int 1)])
    have hstops : Rank.WeightsStop [(long, .int 1)] .unwritableNumber :=
      ⟨[], _, [], rfl, List.forall_mem_nil _, .key hlong⟩
    obtain ⟨warnings, hanswer⟩ : ∃ warnings,
        Rank.ofValue .standard (.mapping [f, w]) = .answer {} warnings := by
      have hfunction : Rank.readFunction (Rank.field? "_f" "function" [f, w]) =
          .answer (some .coverDensity) [] := rfl
      obtain ⟨_, hread⟩ := Rank.exists_readWeights_of_stops hstops
      exact Rank.exists_ofEntries .standard hfunction hread
    have hagrees := h _ [f] _ { function := .coverDensity } _ [] hanswer (by decide) .absent .absent
    cases hagrees.function rfl
  · intro h
    have hread : Rank.ofValue .standard (.mapping [(.text "tsv".toList, .octets [97, 98, 99])]) =
        .answer { tsv := some "abc".toList } [] := by decide +kernel
    have hdefault : ({ tsv := some "abc".toList } : RankOptions) = {} := by
      apply h _ _ _ hread
      rintro ⟨⟩
    cases hdefault

end Search

end FullTextSearch
