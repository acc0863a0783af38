/-
# `FullTextSearch.Proofs.StatementTemplate` — the query stays inside its literals.

Every fragment of a search is a template filled with the literal of the query, and so is the
`SELECT` they make.  Which template it is depends on the settings, the table, the document, its
vector, the columns and the options.  Of the query it takes only whether there is anything to score:
without query text, a rank entry stands for the default order.  Headline options and a normalization
without a text make no statement at all, so a template needs none for them.

The main statement is `statement_confines_query`.  It compares all queries at once: the texts around
the literals are chosen before the query is.
-/
import FullTextSearch.Proofs.Template
import FullTextSearch.Proofs.WrittenValues
import FullTextSearch.Search.Assembly
import FullTextSearch.Value.Standard

namespace FullTextSearch

namespace Sql

/-! ## Fragments -/

/-- The template of a match predicate. -/
def predicateTemplate (document tsv configuration : Option Text) : Template :=
  [.fixed (['('] ++ vector document tsv ++ " @@ ".toList), .call configuration, .fixed [')']]

/-- The template of a headline without a configuration of its own. -/
def headlineTemplate (document name : Text) (options : HeadlineOptions) : Template :=
  [.fixed ("ts_headline(".toList ++ document ++ ", ".toList), .call none,
    .fixed (optionsArgument options ++ ") AS ".toList ++
      (Text.given? (some name)).getD "headline".toList)]

/-- The template of a rank expression whose normalization is written. -/
def rankTemplate (tsv : Text) (options : RankOptions) (normalization : Text) : Template :=
  [.fixed (options.function.name ++ ['('] ++ Rank.arrayArgument options ++ tsv ++ ", ".toList),
    .call none, .fixed (", ".toList ++ normalization ++ [')'])]

/-- The templates of the clauses of one entry, given that of the rank expression. -/
def clauseTemplates (settings : Settings) (rank : Option Template) (entry : Text) :
    List Template :=
  if isRankEntry entry then
    match rank with
    | some rank => [rank ++ [.fixed ([' '] ++ direction entry)]]
    | none => settings.defaultOrder.map fun clause => [.fixed clause]
  else [[.fixed entry]]

section Fragments

variable {compiled value : Text}

/-- A call holds its query once, as a literal. -/
theorem tsqueryCall_eq_fill (h : Query.normalize compiled = .ok value)
    (configuration : Option Text) :
    tsqueryCall compiled (configurationArgument configuration) =
      .ok ((Segment.call configuration).fill (literal value)) := by
  rw [tsqueryCall, h]
  rfl

theorem tsqueryCall_nil_eq_fill (h : Query.normalize compiled = .ok value) :
    tsqueryCall compiled [] = .ok ((Segment.call none).fill (literal value)) :=
  tsqueryCall_eq_fill h none

/-- So does the match predicate. -/
theorem predicate_eq_fill (h : Query.normalize compiled = .ok value)
    (document tsv configuration : Option Text) :
    predicate document tsv compiled configuration =
      .ok ((predicateTemplate document tsv configuration).fill (literal value)) := by
  rw [predicate, tsqueryCall_eq_fill h]
  simp [Except.map, predicateTemplate, Segment.fill]

/-- A headline is its template, once its options are written. -/
theorem headline_eq_map_fill (h : Query.normalize compiled = .ok value) (document name : Text)
    (options : Value) :
    headline document compiled (some name) none options =
      (HeadlineOptions.ofValue options).map fun written =>
        (headlineTemplate document name written).fill (literal value) := by
  rw [headline, tsqueryCall_nil_eq_fill h]
  cases HeadlineOptions.ofValue options with
  | error fault => rfl
  | ok written =>
      simp [Except.map, headlineTemplate, Segment.fill, Text.given?, bind, Except.bind, pure,
        Except.pure]

/-- A rank expression is its template, once its normalization is written. -/
theorem expression_eq_map_fill (h : Query.normalize compiled = .ok value) (settings : Settings)
    (tsv : Text) (options : RankOptions) :
    Rank.expression settings tsv compiled options =
      (Rank.normalizationText settings options).map fun normalization =>
        (rankTemplate tsv options normalization).fill (literal value) := by
  rw [Rank.expression, Rank.weightsArgument_eq_ok, tsqueryCall_nil_eq_fill h]
  cases Rank.normalizationText settings options with
  | error fault => rfl
  | ok normalization =>
      simp [Except.map, rankTemplate, Segment.fill, bind, Except.bind, pure, Except.pure]

end Fragments

/-- A rank expression names its function, so it is never empty. -/
theorem rankTemplate_fill_ne_nil (tsv : Text) (options : RankOptions) (normalization l : Text) :
    (rankTemplate tsv options normalization).fill l ≠ [] := by
  simp [rankTemplate, Segment.fill]

/-- The clauses of an entry are their templates, filled. -/
theorem entryClauses_eq_fill (settings : Settings) (rank : Option Template) (l entry : Text) :
    entryClauses settings (rank.map (Template.fill l)) entry =
      (clauseTemplates settings rank entry).map (Template.fill l) := by
  unfold entryClauses clauseTemplates
  by_cases hrank : isRankEntry entry = true
  · rw [if_pos hrank, if_pos hrank]
    cases rank with
    | some rank => simp [Segment.fill]
    | none => simp [Segment.fill, Function.comp_def]
  · rw [if_neg hrank, if_neg hrank]
    simp [Segment.fill]

/-! ## Ordering -/

/-- The template of the score that entries ask for; `empty` says that there is no query text to
score. -/
def scoreTemplate (settings : Settings) (entries : List Text) (rank : RankOptions)
    (normalization : Text) (empty : Bool) : Option Template :=
  if entries.any isRankEntry ∧ empty = false then
    some (rankTemplate ((Text.given? rank.tsv).getD settings.defaultTsv) rank normalization)
  else none

/-- The templates of the clauses of entries. -/
def orderTemplates (settings : Settings) (entries : List Text) (score : Option Template) :
    List Template :=
  entries.flatMap (clauseTemplates settings score)

/-- The score that entries ask for is never empty. -/
theorem scoreTemplate_fill_ne_nil (settings : Settings) (entries : List Text)
    (rank : RankOptions) (normalization : Text) (empty : Bool) (l : Text) :
    ∀ score ∈ scoreTemplate settings entries rank normalization empty, score.fill l ≠ [] := by
  intro score hscore
  rw [scoreTemplate] at hscore
  split at hscore
  · obtain rfl := Option.some.inj hscore
    exact rankTemplate_fill_ne_nil _ rank normalization l
  · cases hscore

/-- The clauses of all entries are their templates, filled. -/
theorem flatMap_entryClauses (settings : Settings) (entries : List Text)
    (score : Option Template) (l : Text) :
    entries.flatMap (entryClauses settings (score.map (Template.fill l))) =
      (orderTemplates settings entries score).map (Template.fill l) := by
  rw [orderTemplates, List.map_flatMap]
  congr 1
  funext entry
  exact entryClauses_eq_fill settings score l entry

/-- A compiled query is given as it is, also where it is empty. -/
theorem compileGiven_of_compile {compiled : Text} (h : Query.compile compiled = .ok compiled) :
    compileGiven (some compiled) = .ok compiled := by
  cases compiled with
  | nil => rfl
  | cons c rest => exact h

/-- The score that checked options give is the template of a rank expression, filled. -/
theorem score_eq_map_fill {compiled value : Text} (h : Query.normalize compiled = .ok value)
    (lib : Validation) (settings : Settings) (rank : RankOptions) :
    score lib settings (.rankOptions rank) compiled =
      Outcome.ofExcept ((Rank.normalizationText settings rank).map fun normalization =>
        (rankTemplate ((Text.given? rank.tsv).getD settings.defaultTsv) rank normalization).fill
          (literal value)) := by
  rw [← expression_eq_map_fill h]
  exact Outcome.after_nil _

/-- The ordering of compiled text is made of filled templates, and there are no warnings.  Where
nothing is scored the normalization is not written, and it may be any text. -/
theorem ordering_eq_fill {compiled value normalization : Text} {given : List Text}
    {settings : Settings} {order : Value} {rank : RankOptions}
    (hcompiled : Query.compile compiled = .ok compiled)
    (hvalue : Query.stripMarker compiled = value) (hentries : entries settings order = .ok given)
    (hnormalization : (trimmed given).any isRankEntry = true → value ≠ [] →
      Rank.normalizationText settings rank = .ok normalization) (lib : Validation) :
    let score := scoreTemplate settings (trimmed given) rank normalization value.isEmpty
    ordering lib settings order (.rankOptions rank) (some compiled) =
      .answer {
        clauses := (orderTemplates settings (trimmed given) score).map
          (Template.fill (literal value))
        rank := score.map (Template.fill (literal value)) } [] := by
  intro score
  have hnormalize : Query.normalize compiled = .ok value := by
    rw [Query.normalize_of_compile hcompiled, hvalue]
  rw [← flatMap_entryClauses, ordering, compileGiven_of_compile hcompiled, hentries]
  show Outcome.after [] (Outcome.after [] (if (trimmed given).any isRankEntry = true ∧
    Query.stripMarker compiled ≠ [] then _ else _)) = _
  -- the template asks the same question of the query text as the order does
  by_cases hscore : (trimmed given).any isRankEntry = true ∧ value ≠ []
  · have hsome : score = some (rankTemplate _ rank normalization) := if_pos (by simpa using hscore)
    rw [hvalue, if_pos hscore, score_eq_map_fill hnormalize, hnormalization hscore.1 hscore.2, hsome]
    rfl
  · have hnone : score = none := if_neg (by simpa using hscore)
    rw [hvalue, if_neg hscore, hnone]
    rfl

/-- A score whose normalization cannot be written fails the ordering. -/
theorem ordering_of_unwritten {lib : Validation} {settings : Settings} {order : Value}
    {rank : RankOptions} {compiled : Text} {given : List Text} {fault : Fault}
    (hcompiled : Query.compile compiled = .ok compiled)
    (hentries : entries settings order = .ok given)
    (hrank : (trimmed given).any isRankEntry = true) (hvalue : Query.stripMarker compiled ≠ [])
    (hnormalization : Rank.normalizationText settings rank = .error fault) :
    ordering lib settings order (.rankOptions rank) (some compiled) = .fault fault := by
  rw [ordering, compileGiven_of_compile hcompiled, hentries]
  simp only [Outcome.liftM_ok, Outcome.answer_bind, Outcome.after_nil,
    if_pos (And.intro hrank hvalue),
    score_eq_map_fill (Query.normalize_of_compile hcompiled), hnormalization]
  rfl

/-- Where an ordering answers, the normalization was written if it was needed. -/
theorem normalizationText_of_ordering {lib : Validation} {settings : Settings} {order : Value}
    {rank : RankOptions} {compiled : Text} {given : List Text} {o : Ordering}
    {warnings : List Warning} (hcompiled : Query.compile compiled = .ok compiled)
    (hentries : entries settings order = .ok given)
    (h : ordering lib settings order (.rankOptions rank) (some compiled) = .answer o warnings)
    (hrank : (trimmed given).any isRankEntry = true) (hvalue : Query.stripMarker compiled ≠ []) :
    Rank.normalizationText settings rank =
      .ok ((Rank.normalizationText settings rank).toOption.getD []) := by
  cases hnormalization : Rank.normalizationText settings rank with
  | ok normalization => rfl
  | error fault =>
      rw [ordering_of_unwritten hcompiled hentries hrank hvalue hnormalization] at h
      cases h

end Sql

/-! ## Statements -/

/-- A statement that has yet to be given its query. -/
structure StatementTemplate where
  condition : Sql.Template
  selectItems : List Sql.Template
  orderBy : List Sql.Template
  rank : Option Sql.Template
  /-- Where there is a rank expression it is not empty, whatever the query. -/
  rank_fill_ne_nil : ∀ score ∈ rank, ∀ l, score.fill l ≠ []

namespace StatementTemplate

open Sql

/-- The statement of a query text. -/
def fill (value : Text) (template : StatementTemplate) : Statement where
  condition := template.condition.fill (literal value)
  selectItems := template.selectItems.map (Template.fill (literal value))
  orderBy := template.orderBy.map (Template.fill (literal value))
  rank := template.rank.map (Template.fill (literal value))
  queryText := value

/-- The rank expression as a select list item. -/
def rankItem (template : StatementTemplate) : List Template :=
  match template.rank with
  | some score => [score ++ [.fixed " AS rank".toList]]
  | none => []

/-- The `ORDER BY` of a statement. -/
def orderClause (template : StatementTemplate) : Template :=
  if template.orderBy = [] then []
  else .fixed "\nORDER BY ".toList ::
    List.intercalate [.fixed ", ".toList] template.orderBy

/-- The template of the `SELECT` over a table. -/
def toSql (template : StatementTemplate) (table : Text) (columns : List Text)
    (includeRank : Bool) : Template :=
  let added := template.selectItems ++ if includeRank then template.rankItem else []
  [.fixed "SELECT ".toList] ++
    List.intercalate [.fixed ", ".toList] (columns.map (fun column => [.fixed column]) ++ added) ++
    [.fixed ("\nFROM ".toList ++ table ++ "\nWHERE ".toList)] ++ template.condition ++
    template.orderClause

/-- The rank expression of a select list is its template, filled. -/
theorem rankItem_fill (template : StatementTemplate) (value : Text) :
    (template.fill value).rankItem =
      template.rankItem.map (Template.fill (literal value)) := by
  cases hrank : template.rank with
  | none => simp [Statement.rankItem, rankItem, fill, hrank]
  | some score =>
      have hscore := template.rank_fill_ne_nil score hrank (literal value)
      obtain ⟨c, rest, hfill⟩ := List.exists_cons_of_ne_nil hscore
      simp [Statement.rankItem, rankItem, fill, hrank, hfill, Segment.fill]

/-- The `ORDER BY` of a statement is its template, filled. -/
theorem orderClause_fill (template : StatementTemplate) (value : Text) :
    template.orderClause.fill (literal value) =
      if (template.fill value).orderBy = [] then []
      else "\nORDER BY ".toList ++ List.intercalate ", ".toList (template.fill value).orderBy := by
  by_cases hnone : template.orderBy = []
  · simp [orderClause, fill, hnone]
  · simp [orderClause, fill, hnone, Template.fill_intercalate, Segment.fill]

/-- A select list of texts has all of them. -/
theorem itemTexts_text (index : Nat) (items : List Text) :
    itemTexts index (items.map .text) = .ok items := by
  induction items generalizing index with
  | nil => rfl
  | cons t rest ih =>
      rw [List.map_cons, itemTexts, ih]
      rfl

/-- **The `SELECT` of a query is the template of the `SELECT`, filled.** -/
theorem toSql_fill (template : StatementTemplate) (value table : Text) (columns : List Text)
    (includeRank : Bool) :
    (template.fill value).toSql table (columns.map .text) includeRank =
      .ok ((template.toSql table columns includeRank).fill (literal value)) := by
  have hadded : (template.fill value).selectItems ++
        (if includeRank then (template.fill value).rankItem else []) =
      (template.selectItems ++ if includeRank then template.rankItem else []).map
        (Template.fill (literal value)) := by
    cases includeRank with
    | false => simp [fill]
    | true => simp [fill, ← rankItem_fill]
  -- columns hold no place, so filling gives them back
  have hcolumns : (columns.map fun column => [Segment.fixed column]).map
      (Template.fill (literal value)) = columns := by
    simp [Segment.fill, Function.comp_def]
  rw [Statement.toSql, hadded, ← List.map_append, itemTexts_text]
  simp only [Except.map, toSql, Template.fill_append, Template.fill_intercalate, orderClause_fill,
    List.map_append, hcolumns]
  simp [Segment.fill, fill]

end StatementTemplate

namespace Search

open Sql

/-! ## Assembly -/

/-- The entries of the order of a search. -/
def orderEntries (settings : Settings) : OrderChoice → List Text
  | .unset | .flag true => settings.defaultOrder
  | .flag false => []
  | .text list => list.commaList
  | .clauses entries => entries

/-- The order of a search holds texts only, so its entries are always written. -/
theorem entries_value (settings : Settings) (order : OrderChoice) :
    entries settings order.value = .ok (orderEntries settings order) := by
  cases order with
  | unset => rfl
  | flag wanted => cases wanted <;> rfl
  | text list => rfl
  | clauses entries => exact Value.mapM_plain_text entries

/-- The templates of the select list items of a search; none where a headline is refused. -/
def itemTemplates (settings : Settings) (document : Option Text) (options : SearchOptions)
    (written : HeadlineOptions) : List Template :=
  match headlineName? settings options.withHeadline, Text.given? document with
  | some name, some document => [headlineTemplate document name written]
  | _, _ => []

/-- The template of a search whose options are read; `empty` says that there is no query text.  What
of the options has no text stands empty in it: no search that answers writes that. -/
def template (settings : Settings) (document tsv : Option Text) (options : SearchOptions)
    (empty : Bool) : StatementTemplate :=
  let entries := trimmed (orderEntries settings options.order)
  let normalization := (Rank.normalizationText settings options.rank).toOption.getD []
  let written := (HeadlineOptions.ofValue (headlineValue options)).toOption.getD []
  let score := scoreTemplate settings entries options.rank normalization empty
  { condition := predicateTemplate document tsv
      ((Text.given? options.withConfiguration).or settings.textSearchConfig)
    selectItems := itemTemplates settings document options written
    orderBy := orderTemplates settings entries score
    rank := score
    rank_fill_ne_nil := fun t ht l =>
      scoreTemplate_fill_ne_nil settings entries options.rank normalization empty l t ht }

/-- The items of a search that answers are filled templates. -/
theorem selectItems_eq_fill {compiled value : Text} (h : Query.normalize compiled = .ok value)
    (settings : Settings) (document : Option Text) (options : SearchOptions) {items : List Text}
    (hitems : selectItems settings document compiled options = .ok items) :
    items = (itemTemplates settings document options
      ((HeadlineOptions.ofValue (headlineValue options)).toOption.getD [])).map
        (Template.fill (literal value)) := by
  rw [selectItems] at hitems
  rw [itemTemplates]
  cases hname : headlineName? settings options.withHeadline with
  | none =>
      rw [hname] at hitems
      exact (Except.ok.inj hitems).symm
  | some name =>
      cases hdocument : Text.given? document with
      | none =>
          rw [hname, hdocument] at hitems
          cases hitems
      | some document =>
          rw [hname, hdocument] at hitems
          simp only [headline_eq_map_fill h] at hitems
          cases hwritten : HeadlineOptions.ofValue (headlineValue options) with
          | error fault =>
              rw [hwritten] at hitems
              cases hitems
          | ok written =>
              rw [hwritten] at hitems
              exact (Except.ok.inj hitems).symm

/-- A search that succeeds gives its template, filled with the text of the query. -/
theorem statementOf_eq_fill {lib : Validation} {settings : Settings} {document tsv : Option Text}
    {query : Text} {options : SearchOptions} {s : Statement} {warnings : List Warning}
    (h : statementOf lib settings document tsv query options = .answer s warnings) :
    ∃ value, Query.normalize query = .ok value ∧
      s = (template settings document tsv options value.isEmpty).fill value := by
  cases hcompile : Query.compile query with
  | error fault =>
      rw [statementOf, hcompile] at h
      cases h
  | ok compiled =>
      -- every builder compiles again, which changes nothing, so they all embed one value
      have hcompiled := Query.compile_compile hcompile
      have hvalue := Query.normalize_of_compile hcompiled
      have hentries := entries_value settings options.order
      refine ⟨Query.stripMarker compiled, Query.normalize_of_compile hcompile, ?_⟩
      simp only [statementOf, hcompile, predicate_eq_fill hvalue,
        Outcome.liftM_ok, Outcome.answer_bind, Outcome.after_nil] at h
      obtain ⟨items, _, _, hlift, hrest, -⟩ := Outcome.bind_eq_answer_iff.mp h
      obtain ⟨hitems, -⟩ := Outcome.liftM_eq_answer_iff.mp hlift
      obtain ⟨ordering, _, _, hordering, hs, -⟩ := Outcome.bind_eq_answer_iff.mp hrest
      have hfill := ordering_eq_fill hcompiled rfl hentries
        (normalizationText_of_ordering hcompiled hentries hordering) lib
      rw [hordering] at hfill
      obtain ⟨rfl, rfl⟩ := Outcome.answer.inj hfill
      obtain rfl := selectItems_eq_fill hvalue settings document options hitems
      cases hs
      rfl

/-! ## All queries at once -/

/-- **The query stays inside its literals.**  Around the literal of the query a statement has the
same texts for all queries whose text is empty, and the same for all other queries.  There is at
least one literal.  If a database can read each of those texts on its own, then it reads them in the
statement as it does on their own, with one literal between each two, and the value of every one of
these literals is the query as it is meant to be read.  This is the statement that a search executes.
-/
theorem statement_confines_query (lib : Validation) (settings : Settings) (table : Text)
    (document tsv : Option Text) (columns : List Text) (options : Value)
    (includeRank empty : Bool) :
    ∃ texts : List Text, 2 ≤ texts.length ∧
      ∀ query s warnings,
        statement lib settings document tsv query options = .answer s warnings →
        ∃ value, Query.normalize query = .ok value ∧
          (value.isEmpty = empty →
            ∃ sql, s.toSql table (columns.map .text) includeRank = .ok sql ∧
              run lib settings table document tsv query (.ok (columns.map .text)) options
                includeRank = .answer (calls sql) warnings ∧
              sql = List.intercalate (literal value) texts ∧
              ∀ found, texts.mapM parts = some found →
                parts sql = some (List.intercalate [.literal value] found)) := by
  cases hoptions : ofValue lib options with
  | fault cause =>
      -- no search succeeds, whatever the query
      refine ⟨[[], []], by decide, fun query s warnings h => ?_⟩
      rw [statement, hoptions] at h
      cases h
  | answer read given =>
      let select := (template settings document tsv read empty).toSql table columns includeRank
      refine ⟨select.chunks, ?_, fun query s warnings h => ?_⟩
      · have hcall : .call ((Text.given? read.withConfiguration).or settings.textSearchConfig) ∈
            select := by
          simp [select, StatementTemplate.toSql, template, predicateTemplate]
        exact Template.two_le_length_chunks hcall
      · have hstatement := h
        rw [statement, hoptions, Outcome.answer_bind, Outcome.after_eq_answer_iff] at hstatement
        obtain ⟨_, hstatement, -⟩ := hstatement
        obtain ⟨value, hvalue, hs⟩ := statementOf_eq_fill hstatement
        refine ⟨value, hvalue, ?_⟩
        rintro rfl
        have hsql : s.toSql table (columns.map .text) includeRank =
            .ok (select.fill (literal value)) := by
          rw [hs]
          exact StatementTemplate.toSql_fill _ value table columns includeRank
        refine ⟨select.fill (literal value), hsql, ?_, select.fill_eq_intercalate _, ?_⟩
        · rw [run, h]
          simp [hsql, Outcome.after]
        · intro found hfound
          rw [select.fill_eq_intercalate]
          exact parts_intercalate value select.fenced_chunks hfound

/-- A query with a quote in it, which is scored for the order and for a column. -/
theorem statement_confines_query_quoted :
    ∃ s : Statement,
      statement .standard {} none (some "tsv".toList) "it's".toList
        (.mapping [(.text "order".toList, .text "rank".toList)]) = .answer s [] ∧
      ∃ texts sql, 2 ≤ texts.length ∧ s.toSql "docs".toList [.text ['*']] true = .ok sql ∧
        sql = List.intercalate (literal "it's".toList) texts := by
  let score := "ts_rank(tsv, to_tsquery('it''s'), 16)".toList
  let s : Statement :=
    { condition := "(tsv @@ to_tsquery('it''s'))".toList
      orderBy := [score ++ " DESC".toList]
      rank := some score
      queryText := "it's".toList }
  have hs : statement .standard {} none (some "tsv".toList) "it's".toList
      (.mapping [(.text "order".toList, .text "rank".toList)]) = .answer s [] := by decide +kernel
  obtain ⟨texts, htwo, h⟩ := statement_confines_query .standard {} "docs".toList none
    (some "tsv".toList) [['*']] (.mapping [(.text "order".toList, .text "rank".toList)]) true false
  obtain ⟨value, hvalue, hsql⟩ := h "it's".toList s [] hs
  obtain rfl : value = "it's".toList := by
    have hread : Query.normalize "it's".toList = .ok "it's".toList := rfl
    exact Except.ok.inj (hvalue.symm.trans hread)
  obtain ⟨sql, hselect, -, htexts, -⟩ := hsql rfl
  exact ⟨s, hs, texts, sql, htwo, hselect, htexts⟩

end Search

end FullTextSearch
