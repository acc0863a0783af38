/-
# `FullTextSearch.Proofs.SharedCompilation` — one compilation serves every fragment.

A search compiles its query once and hands the compiled text to every builder.  Each builder accepts
typed and compiled text alike and normalizes what it is given, so on its way into a fragment the
query is compiled up to three times, and an empty query is treated as a missing one by the order
alone.  None of that shows: every fragment is the one that its builder makes of the typed query
(`statement_builds_from_query`).

All of it rests on two facts.  Compiled text normalizes like the text it was compiled from
(`normalize_compile`), and a missing query has the same empty text as a compiled query without
tokens (`exists_compileGiven`).
-/
import FullTextSearch.Proofs.StatementTemplate

namespace FullTextSearch

namespace Query

/-- Compiled text normalizes like the text that it was compiled from. -/
theorem normalize_compile {query compiled : Text} (h : compile query = .ok compiled) :
    normalize compiled = normalize query := by
  rw [normalize_of_compile h, normalize_of_compile (compile_compile h)]

/-- What cannot be compiled cannot be normalized, for the same reason. -/
theorem normalize_of_compile_error {query : Text} {fault : Fault}
    (h : compile query = .error fault) : normalize query = .error fault := by
  rw [normalize, h]
  rfl

end Query

/-! ## Fragments of typed and of compiled text -/

namespace Sql

section Compiled

variable {query compiled : Text} (h : Query.compile query = .ok compiled)
include h

/-- The call of a query is the same for its compiled form, and so is every fragment around it. -/
theorem tsqueryCall_compile (configuration : Text) :
    tsqueryCall compiled configuration = tsqueryCall query configuration := by
  rw [tsqueryCall, tsqueryCall, Query.normalize_compile h]

theorem predicate_compile (document tsv configuration : Option Text) :
    predicate document tsv compiled configuration =
      predicate document tsv query configuration := by
  rw [predicate, predicate, tsqueryCall_compile h]

theorem headline_compile (document : Text) (name configuration : Option Text)
    (options : Value) :
    headline document compiled name configuration options =
      headline document query name configuration options := by
  rw [headline, headline, tsqueryCall_compile h]

theorem expression_compile (settings : Settings) (tsv : Text) (options : RankOptions) :
    Rank.expression settings tsv compiled options =
      Rank.expression settings tsv query options := by
  rw [Rank.expression, Rank.expression, tsqueryCall_compile h]

theorem descending_compile (settings : Settings) (tsv : Text) (options : RankOptions) :
    Rank.descending settings tsv compiled options =
      Rank.descending settings tsv query options := by
  rw [Rank.descending, Rank.descending, expression_compile h]

/-- An order compiles the query that it is given unless that is empty, and then goes on without a
marker.  Either way it goes on with a text that normalizes like the compiled query. -/
theorem exists_compileGiven :
    ∃ given, compileGiven (some query) = .ok given ∧
      Query.stripMarker given = Query.stripMarker compiled ∧
      Query.normalize given = Query.normalize compiled := by
  cases query with
  | nil =>
      obtain rfl : Query.marker = compiled := Except.ok.inj h
      exact ⟨[], rfl, rfl, rfl⟩
  | cons c rest => exact ⟨compiled, h, rfl, rfl⟩

end Compiled

/-- A score is one of the normalized text. -/
theorem score_congr {given given' : Text} (h : Query.normalize given = Query.normalize given')
    (lib : Validation) (settings : Settings) (rank : Value) :
    score lib settings rank given = score lib settings rank given' := by
  have hcall : ∀ configuration, tsqueryCall given configuration = tsqueryCall given' configuration := by
    intro configuration
    rw [tsqueryCall, tsqueryCall, h]
  have hexpression : ∀ tsv options, Rank.expression settings tsv given options =
      Rank.expression settings tsv given' options := by
    intro tsv options
    rw [Rank.expression, Rank.expression, hcall]
  simp only [score, hexpression]

/-- An ordering compiles its query itself, which leaves a compiled one as it is. -/
theorem ordering_compile {query compiled : Text} (h : Query.compile query = .ok compiled)
    (lib : Validation) (settings : Settings) (order rank : Value) :
    ordering lib settings order rank (some compiled) =
      ordering lib settings order rank (some query) := by
  obtain ⟨given, hgiven, hstrip, hnormalize⟩ := exists_compileGiven h
  obtain ⟨again, hagain, hstripAgain, hnormalizeAgain⟩ :=
    exists_compileGiven (Query.compile_compile h)
  simp only [ordering, hgiven, hagain, Outcome.liftM_ok, Outcome.answer_bind, hstrip, hstripAgain,
    score_congr (hnormalizeAgain.trans hnormalize.symm)]

/-- Whether entries are scored: one of them asks for it, and there is text to score. -/
def Scores (entries : List Text) (value : Text) : Prop :=
  value ≠ [] ∧ ∃ entry ∈ entries, isRankEntry entry = true

end Sql

namespace Search

/-! ## The statement, fragment by fragment -/

/-- Whether a headline is wanted: by a flag, or by a name that is not empty. -/
def wantsHeadline : HeadlineChoice → Bool
  | .flag wanted => wanted
  | .named name => !name.isEmpty

/-- The name of a headline that is wanted. -/
def headlineName (settings : Settings) : HeadlineChoice → Text
  | .flag _ => settings.headlineName
  | .named name => name

/-- **A statement that is built from a query text.**  Every fragment is what its builder makes of
that text, typed or compiled. -/
structure BuiltFrom (lib : Validation) (settings : Settings) (document tsv : Option Text)
    (query : Text) (options : SearchOptions) (s : Statement) : Prop where
  condition : Sql.predicate document tsv query
    ((Text.given? options.withConfiguration).or settings.textSearchConfig) = .ok s.condition
  noHeadline : wantsHeadline options.withHeadline = false → s.selectItems = []
  headline : wantsHeadline options.withHeadline = true →
    ∃ name item, document = some name ∧
      Sql.headline name query (some (headlineName settings options.withHeadline)) none
        (headlineValue options) = .ok item ∧
      s.selectItems = [item]
  ordering : Sql.ordering lib settings options.order.value (.rankOptions options.rank)
    (some query) = .answer ⟨s.orderBy, s.rank⟩ []
  queryText : Query.normalize query = .ok s.queryText

/-- Two query texts of which every builder makes the same. -/
structure SameFragments (lib : Validation) (query query' : Text) : Prop where
  predicate : ∀ document tsv configuration,
    Sql.predicate document tsv query configuration =
      Sql.predicate document tsv query' configuration
  rank : ∀ (settings : Settings) (tsv : Text) (options : Value),
    (do Rank.expression settings tsv query (← Rank.ofValue lib options) : Outcome Text) =
      do Rank.expression settings tsv query' (← Rank.ofValue lib options)
  rankOrder : ∀ (settings : Settings) (tsv : Text) (options : Value),
    (do Rank.descending settings tsv query (← Rank.ofValue lib options) : Outcome Text) =
      do Rank.descending settings tsv query' (← Rank.ofValue lib options)
  headline : ∀ document name configuration options,
    Sql.headline document query name configuration options =
      Sql.headline document query' name configuration options
  ordering : ∀ settings order rank,
    Sql.ordering lib settings order rank (some query) =
      Sql.ordering lib settings order rank (some query')
  statement : ∀ settings document tsv options,
    statement lib settings document tsv query options =
      statement lib settings document tsv query' options

/-- **What a search needs beside a query that can be compiled**, given the text of that query: a
document for a headline, texts for the options of a headline, and a normalization that is written,
where there is a score. -/
structure Buildable (settings : Settings) (document : Option Text) (options : SearchOptions)
    (value : Text) : Prop where
  document : wantsHeadline options.withHeadline = true → Text.given? document ≠ none
  headlineOptions : wantsHeadline options.withHeadline = true →
    ∀ entries, options.headlineOptions = some entries →
      ∀ entry ∈ entries, ∃ t, entry.2.plain = .ok t
  normalization : Sql.Scores (Sql.trimmed (orderEntries settings options.order)) value →
    Numeral.Writable (options.rank.normalization.getD settings.defaultNormalization)

/-! ## Typed and compiled queries -/

/-- A search compiles its query first, so its compiled form gives the same search. -/
theorem statementOf_compile {query compiled : Text} (h : Query.compile query = .ok compiled)
    (lib : Validation) (settings : Settings) (document tsv : Option Text)
    (options : SearchOptions) :
    statementOf lib settings document tsv compiled options =
      statementOf lib settings document tsv query options := by
  simp only [statementOf, h, Query.compile_compile h]

/-- Every builder makes the same of a query and of its compiled form. -/
theorem sameFragments_of_compile {query compiled : Text}
    (h : Query.compile query = .ok compiled) (lib : Validation) :
    SameFragments lib compiled query where
  predicate := Sql.predicate_compile h
  rank := by
    intro settings tsv options
    simp only [Sql.expression_compile h]
  rankOrder := by
    intro settings tsv options
    simp only [Sql.descending_compile h]
  headline := Sql.headline_compile h
  ordering := Sql.ordering_compile h lib
  statement := by
    intro settings document tsv options
    simp only [statement, statementOf_compile h]

/-! ## What a search is built from -/

/-- A headline has a name exactly if it is wanted. -/
theorem headlineName?_eq (settings : Settings) (choice : HeadlineChoice) :
    headlineName? settings choice =
      if wantsHeadline choice then some (headlineName settings choice) else none := by
  rcases choice with (_ | _) | (_ | ⟨c, rest⟩) <;> rfl

/-- The select list items of a search that wants no headline. -/
theorem selectItems_of_not_wants {settings : Settings} {options : SearchOptions}
    (h : wantsHeadline options.withHeadline = false) (document : Option Text) (query : Text) :
    selectItems settings document query options = .ok [] := by
  rw [selectItems, headlineName?_eq, h]
  rfl

/-- The select list items of a search that wants a headline: the headline, if there is a
document. -/
theorem selectItems_of_wants {settings : Settings} {options : SearchOptions}
    (h : wantsHeadline options.withHeadline = true) (document : Option Text) (query : Text) :
    selectItems settings document query options =
      match Text.given? document with
      | none => .error .missingDocument
      | some name =>
        (Sql.headline name query (some (headlineName settings options.withHeadline)) none
          (headlineValue options)).map fun item => [item] := by
  rw [selectItems, headlineName?_eq, h, if_pos rfl]
  cases Text.given? document <;> rfl

/-- The options of a headline are written exactly if their values have texts: their names are
texts. -/
theorem exists_ofValue_headlineValue_iff (options : SearchOptions) :
    (∃ written, Sql.HeadlineOptions.ofValue (headlineValue options) = .ok written) ↔
      ∀ entries, options.headlineOptions = some entries →
        ∀ entry ∈ entries, ∃ t, entry.2.plain = .ok t := by
  rw [headlineValue]
  cases options.headlineOptions with
  | none => simp [Sql.HeadlineOptions.ofValue]
  | some entries =>
      have hentry : ∀ entry : Text × Value,
          (∃ written, Sql.entryTexts (.text entry.1, entry.2) = .ok written) ↔
            ∃ t, entry.2.plain = .ok t := by
        rintro ⟨name, value⟩
        show (∃ written, (value.plain >>= fun t => pure (name, t)) = Except.ok written) ↔ _
        cases value.plain <;> simp [bind, Except.bind, pure, Except.pure]
      simp [Sql.HeadlineOptions.ofValue, exists_mapM_eq_ok_iff, hentry]

/-- An ordering that asks for no score, or for one whose normalization is written, answers without
warnings; there is no other that answers. -/
theorem ordering_answers_iff {lib : Validation} {settings : Settings} {options : SearchOptions}
    {compiled : Text} (hcompiled : Query.compile compiled = .ok compiled) :
    (∃ o, Sql.ordering lib settings options.order.value (.rankOptions options.rank)
        (some compiled) = .answer o []) ↔
      (Sql.Scores (Sql.trimmed (orderEntries settings options.order))
          (Query.stripMarker compiled) →
        Numeral.Writable (options.rank.normalization.getD settings.defaultNormalization)) := by
  have hentries := entries_value settings options.order
  constructor
  · rintro ⟨o, ho⟩ ⟨hvalue, entry, hentry, hrank⟩
    have hany : (Sql.trimmed (orderEntries settings options.order)).any Sql.isRankEntry = true :=
      List.any_eq_true.mpr ⟨entry, hentry, hrank⟩
    exact (Rank.normalizationText_eq_ok_iff.mp
      (Sql.normalizationText_of_ordering hcompiled hentries ho hany hvalue)).1
  · intro hwritable
    have hnormalization : (Sql.trimmed (orderEntries settings options.order)).any
        Sql.isRankEntry = true → Query.stripMarker compiled ≠ [] →
          Rank.normalizationText settings options.rank =
            .ok (Numeral.ofInt (options.rank.normalization.getD settings.defaultNormalization)) := by
      intro hany hvalue
      obtain ⟨entry, hentry, hrank⟩ := List.any_eq_true.mp hany
      exact Rank.normalizationText_eq_ok_iff.mpr ⟨hwritable ⟨hvalue, entry, hentry, hrank⟩, rfl⟩
    exact ⟨_, Sql.ordering_eq_fill hcompiled rfl hentries hnormalization lib⟩

/-- Rank options that are read already give no more warnings. -/
theorem warnings_of_ordering {lib : Validation} {settings : Settings} {options : SearchOptions}
    {compiled : Text} {o : Sql.Ordering} {warnings : List Warning}
    (hcompiled : Query.compile compiled = .ok compiled)
    (h : Sql.ordering lib settings options.order.value (.rankOptions options.rank)
      (some compiled) = .answer o warnings) : warnings = [] := by
  have hentries := entries_value settings options.order
  have hfill := Sql.ordering_eq_fill hcompiled rfl hentries
    (Sql.normalizationText_of_ordering hcompiled hentries h) lib
  rw [h] at hfill
  exact (Outcome.answer.inj hfill).2

/-- A search whose options are read answers where every builder does. -/
theorem statementOf_eq_answer_iff {lib : Validation} {settings : Settings}
    {document tsv : Option Text} {query : Text} {options : SearchOptions} {s : Statement}
    {warnings : List Warning} :
    statementOf lib settings document tsv query options = .answer s warnings ↔
      ∃ compiled condition items ordering,
        Query.compile query = .ok compiled ∧
        Sql.predicate document tsv compiled
          ((Text.given? options.withConfiguration).or settings.textSearchConfig) = .ok condition ∧
        selectItems settings document compiled options = .ok items ∧
        Sql.ordering lib settings options.order.value (.rankOptions options.rank)
          (some compiled) = .answer ordering warnings ∧
        s = ⟨condition, items, ordering.clauses, ordering.rank, Query.stripMarker compiled⟩ := by
  simp only [statementOf, Outcome.bind_eq_answer_iff, Outcome.liftM_eq_answer_iff]
  constructor
  · rintro ⟨compiled, _, _, ⟨hcompile, rfl⟩, ⟨condition, _, _, ⟨hcondition, rfl⟩, ⟨items, _, _,
      ⟨hitems, rfl⟩, ⟨ordering, ws, _, hordering, hs, rfl⟩, rfl⟩, rfl⟩, rfl⟩
    cases hs
    exact ⟨compiled, condition, items, ordering, hcompile, hcondition, hitems,
      by simpa using hordering, rfl⟩
  · rintro ⟨compiled, condition, items, ordering, hcompile, hcondition, hitems, hordering, rfl⟩
    exact ⟨compiled, [], _, ⟨hcompile, rfl⟩, ⟨condition, [], _, ⟨hcondition, rfl⟩, ⟨items, [], _,
      ⟨hitems, rfl⟩, ⟨ordering, warnings, [], hordering, rfl, rfl⟩, rfl⟩, rfl⟩, by simp⟩

/-- A search that answers is built from its typed query, and what it is built of gives no
warnings. -/
theorem builtFrom_of_statementOf {lib : Validation} {settings : Settings}
    {document tsv : Option Text} {query : Text} {options : SearchOptions} {s : Statement}
    {warnings : List Warning}
    (h : statementOf lib settings document tsv query options = .answer s warnings) :
    BuiltFrom lib settings document tsv query options s ∧ warnings = [] := by
  obtain ⟨compiled, condition, items, ordering, hcompile, hcondition, hitems, hordering, rfl⟩ :=
    statementOf_eq_answer_iff.mp h
  obtain rfl := warnings_of_ordering (Query.compile_compile hcompile) hordering
  refine ⟨⟨?_, ?_, ?_, ?_, Query.normalize_of_compile hcompile⟩, rfl⟩
  · rw [← Sql.predicate_compile hcompile]
    exact hcondition
  · intro hwants
    rw [selectItems_of_not_wants hwants] at hitems
    exact (Except.ok.inj hitems).symm
  · intro hwants
    rw [selectItems_of_wants hwants] at hitems
    cases hdocument : Text.given? document with
    | none =>
        rw [hdocument] at hitems
        cases hitems
    | some name =>
        rw [hdocument] at hitems
        simp only [Sql.headline_compile hcompile] at hitems
        cases hheadline : Sql.headline name query
            (some (headlineName settings options.withHeadline)) none (headlineValue options) with
        | error fault =>
            rw [hheadline] at hitems
            cases hitems
        | ok item =>
            rw [hheadline] at hitems
            exact ⟨name, item, (Text.given?_eq_some_iff.mp hdocument).1, hheadline,
              (Except.ok.inj hitems).symm⟩
  · rw [← Sql.ordering_compile hcompile]
    exact hordering

/-- Where a headline is wanted, there are select list items exactly if there is a document and the
options are written. -/
theorem exists_selectItems_iff {settings : Settings} {document : Option Text} {compiled : Text}
    {options : SearchOptions} (hcompiled : Query.compile compiled = .ok compiled)
    (hwants : wantsHeadline options.withHeadline = true) :
    (∃ items, selectItems settings document compiled options = .ok items) ↔
      Text.given? document ≠ none ∧
        ∃ written, Sql.HeadlineOptions.ofValue (headlineValue options) = .ok written := by
  rw [selectItems_of_wants hwants]
  cases Text.given? document with
  | none => simp
  | some name =>
      simp only [Sql.headline_eq_map_fill (Query.normalize_of_compile hcompiled)]
      cases Sql.HeadlineOptions.ofValue (headlineValue options) <;> simp [Except.map]

/-- **A search whose options are read answers exactly if its query can be compiled and there is all
that its fragments need.** -/
theorem statementOf_answers_iff (lib : Validation) (settings : Settings)
    (document tsv : Option Text) (query : Text) (options : SearchOptions) :
    (∃ s warnings, statementOf lib settings document tsv query options = .answer s warnings) ↔
      ∃ compiled, Query.compile query = .ok compiled ∧
        Buildable settings document options (Query.stripMarker compiled) := by
  constructor
  · rintro ⟨s, warnings, h⟩
    obtain ⟨compiled, _, items, ordering, hcompile, _, hitems, hordering, _⟩ :=
      statementOf_eq_answer_iff.mp h
    have hcompiled := Query.compile_compile hcompile
    obtain rfl := warnings_of_ordering hcompiled hordering
    refine ⟨compiled, hcompile, ⟨fun hwants => ?_, fun hwants => ?_, ?_⟩⟩
    · exact ((exists_selectItems_iff hcompiled hwants).mp ⟨items, hitems⟩).1
    · exact (exists_ofValue_headlineValue_iff options).mp
        ((exists_selectItems_iff hcompiled hwants).mp ⟨items, hitems⟩).2
    · exact (ordering_answers_iff hcompiled).mp ⟨ordering, hordering⟩
  · rintro ⟨compiled, hcompile, hbuildable⟩
    have hcompiled := Query.compile_compile hcompile
    have hvalue := Query.normalize_of_compile hcompiled
    have hitems : ∃ items, selectItems settings document compiled options = .ok items := by
      cases hwants : wantsHeadline options.withHeadline with
      | false => exact ⟨[], selectItems_of_not_wants hwants _ _⟩
      | true =>
          exact (exists_selectItems_iff hcompiled hwants).mpr ⟨hbuildable.document hwants,
            (exists_ofValue_headlineValue_iff options).mpr (hbuildable.headlineOptions hwants)⟩
    obtain ⟨items, hitems⟩ := hitems
    obtain ⟨ordering, hordering⟩ := (ordering_answers_iff hcompiled).mpr hbuildable.normalization
    exact ⟨_, [], statementOf_eq_answer_iff.mpr ⟨compiled, _, items, ordering, hcompile,
      Sql.predicate_eq_fill hvalue _ _ _, hitems, hordering, rfl⟩⟩

/-- A search whose query cannot be compiled fails for the same reason. -/
theorem statementOf_of_compile_error {query : Text} {fault : Fault}
    (h : Query.compile query = .error fault) (lib : Validation) (settings : Settings)
    (document tsv : Option Text) (options : SearchOptions) :
    statementOf lib settings document tsv query options = .fault fault := by
  rw [statementOf, h]
  rfl

/-- A headline of no document is refused before anything else is written. -/
theorem statementOf_of_missing_document {query compiled : Text} {document : Option Text}
    {options : SearchOptions} (h : Query.compile query = .ok compiled)
    (hwants : wantsHeadline options.withHeadline = true) (hdocument : Text.given? document = none)
    (lib : Validation) (settings : Settings) (tsv : Option Text) :
    statementOf lib settings document tsv query options = .fault .missingDocument := by
  have hvalue := Query.normalize_of_compile (Query.compile_compile h)
  simp only [statementOf, h, Outcome.liftM_ok, Outcome.answer_bind, Outcome.after_nil,
    Sql.predicate_eq_fill hvalue, selectItems_of_wants hwants, hdocument, Outcome.liftM_error,
    Outcome.fault_bind]

/-- Behind options that are read the search is one whose options are given. -/
theorem statement_of_read {lib : Validation} {options : Value} {read : SearchOptions}
    {warnings : List Warning} (h : ofValue lib options = .answer read warnings)
    (settings : Settings) (document tsv : Option Text) (query : Text) :
    statement lib settings document tsv query options =
      (statementOf lib settings document tsv query read).after warnings := by
  rw [statement, h, Outcome.answer_bind]

/-- **A search is built from its typed query.**  Where a search answers, every one of its fragments
is what its builder makes of the query as it was given, typed or compiled, and the only warnings are
those of the options.  No builder, nor the search itself, tells a query from its compiled form.
Where the options are read, the search fails for what the query cannot be compiled for, and where a
headline is wanted of no document; beside that it fails only where the options of a headline or the
normalization of a score cannot be written. -/
theorem statement_builds_from_query (lib : Validation) (settings : Settings)
    (document tsv : Option Text) (query : Text) (options : Value) :
    (∀ s warnings, statement lib settings document tsv query options = .answer s warnings →
      ∃ read, ofValue lib options = .answer read warnings ∧
        BuiltFrom lib settings document tsv query read s) ∧
    (∀ compiled, Query.compile query = .ok compiled → SameFragments lib compiled query) ∧
    (∀ read warnings, ofValue lib options = .answer read warnings →
      (∀ fault, Query.compile query = .error fault →
        statement lib settings document tsv query options = .fault fault) ∧
      (∀ compiled, Query.compile query = .ok compiled →
        wantsHeadline read.withHeadline = true → Text.given? document = none →
          statement lib settings document tsv query options = .fault .missingDocument) ∧
      ((∃ s given, statement lib settings document tsv query options = .answer s given) ↔
        ∃ compiled, Query.compile query = .ok compiled ∧
          Buildable settings document read (Query.stripMarker compiled))) := by
  refine ⟨?_, fun compiled h => sameFragments_of_compile h lib, ?_⟩
  · intro s warnings h
    obtain ⟨read, given, added, hread, hstatement, rfl⟩ := Outcome.bind_eq_answer_iff.mp h
    obtain ⟨hbuilt, rfl⟩ := builtFrom_of_statementOf hstatement
    exact ⟨read, by simpa using hread, hbuilt⟩
  · intro read warnings hread
    rw [statement_of_read hread]
    refine ⟨?_, ?_, ?_⟩
    · intro fault hfault
      rw [Outcome.after_eq_fault_iff]
      exact statementOf_of_compile_error hfault lib settings document tsv read
    · intro compiled hcompile hwants hdocument
      rw [Outcome.after_eq_fault_iff]
      exact statementOf_of_missing_document hcompile hwants hdocument lib settings tsv
    · rw [← statementOf_answers_iff lib settings document tsv]
      constructor
      · rintro ⟨s, given, h⟩
        obtain ⟨added, hanswer, -⟩ := Outcome.after_eq_answer_iff.mp h
        exact ⟨s, added, hanswer⟩
      · rintro ⟨s, given, h⟩
        exact ⟨s, warnings ++ given, by rw [h]; rfl⟩

/-- A typed query whose compiled form carries two markers, scored for the order and with a
headline. -/
theorem statement_builds_from_query_marked :
    ∃ s : Statement,
      statement .standard {} (some "body".toList) none " pg:foo".toList
        (.mapping [(.text "order".toList, .text "rank".toList),
          (.text "with_headline".toList, .bool true)]) = .answer s [] ∧
      (∃ read, ofValue .standard (.mapping [(.text "order".toList, .text "rank".toList),
          (.text "with_headline".toList, .bool true)]) = .answer read [] ∧
        BuiltFrom .standard {} (some "body".toList) none " pg:foo".toList read s) ∧
      Query.compile " pg:foo".toList = .ok "pg:pg:foo".toList ∧
      SameFragments .standard "pg:pg:foo".toList " pg:foo".toList := by
  let score := "ts_rank(tsv, to_tsquery('pg:foo'), 16)".toList
  let s : Statement :=
    { condition := "(to_tsvector(body) @@ to_tsquery('pg:foo'))".toList
      selectItems := ["ts_headline(body, to_tsquery('pg:foo')) AS headline".toList]
      orderBy := [score ++ " DESC".toList]
      rank := some score
      queryText := "pg:foo".toList }
  have hs : statement .standard {} (some "body".toList) none " pg:foo".toList
      (.mapping [(.text "order".toList, .text "rank".toList),
        (.text "with_headline".toList, .bool true)]) = .answer s [] := by decide +kernel
  have hcompile : Query.compile " pg:foo".toList = .ok "pg:pg:foo".toList := rfl
  obtain ⟨hbuilt, hsame, -⟩ := statement_builds_from_query .standard {} (some "body".toList) none
    " pg:foo".toList (.mapping [(.text "order".toList, .text "rank".toList),
      (.text "with_headline".toList, .bool true)])
  exact ⟨s, hs, hbuilt s [] hs, hcompile, hsame _ hcompile⟩

end Search

end FullTextSearch
