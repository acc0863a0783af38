/-
# `FullTextSearch.Proofs.OrderPass` — an order, one entry after another.

An order is worked off entry by entry.  Every entry becomes clauses of its own (`Becomes`), and the
rank options are read when the first entry asks for a score and kept for those behind it, so the
score is the same for all of them and the options give their warnings once or not at all.

`Pass` is this pass with all that it remembers.  One step lemma for each kind of entry and an
induction over the entries give the result of any pass from any state (`Pass.run_eq`), and from the
empty state that is the ordering (`ordering_eq_inTurn`).  What an answer to an order must be is
`Orders`, and every answer is that (`orders_of_ordering`).

Two things stand in the way of an answer: an item of a list without a text, before any entry is looked
at, and a normalization that cannot be written, once an entry is scored.  The main statement,
`ordering_entry_by_entry`, tells what the order comes to in either case and in all others.
-/
import FullTextSearch.Proofs.OrderEntries
import FullTextSearch.Proofs.SharedCompilation
import Mathlib.Data.List.Forall2

namespace FullTextSearch

namespace Sql

/-! ## Entries -/

/-- What an entry becomes, given the normalized text of the query and the score of that text. -/
inductive Becomes (settings : Settings) (value : Text) (score : Option Text) (entry : Text) :
    List Text → Prop
  /-- An entry that does not start with `rank` is a clause as it is. -/
  | kept {first : Text} {rest : List Text} (words : entry.words = first :: rest)
      (other : first.lower ≠ "rank".toList) : Becomes settings value score entry [entry]
  /-- Without text, a rank entry gives way to the default order as it stands in the settings. -/
  | replaced {first : Text} {rest : List Text} (words : entry.words = first :: rest)
      (ranks : first.lower = "rank".toList) (empty : value = []) :
      Becomes settings value score entry settings.defaultOrder
  /-- A rank entry orders by the score, in the direction that its other words name. -/
  | scored {first expression : Text} {rest : List Text} (words : entry.words = first :: rest)
      (ranks : first.lower = "rank".toList) (given : value ≠ [])
      (scores : score = some expression) :
      Becomes settings value score entry
        [expression ++ [' '] ++ if rest = [] then "DESC".toList else Text.joinWords rest]

/-- An entry orders by rank exactly if its first word is `rank`, in any case. -/
theorem isRankEntry_of_words {entry first : Text} {rest : List Text}
    (h : entry.words = first :: rest) :
    isRankEntry entry = true ↔ first.lower = "rank".toList := by
  rw [isRankEntry, h]
  exact beq_iff_eq

/-- The direction of a rank entry is the rest of its words, or `DESC`. -/
theorem direction_of_words {entry first : Text} {rest : List Text}
    (h : entry.words = first :: rest) :
    direction entry = if rest = [] then "DESC".toList else Text.joinWords rest := by
  rw [direction, h, List.tail_cons]
  cases rest <;> rfl

/-- The clauses of an entry are what it becomes, if rank entries have a score exactly where there is
text to score. -/
theorem becomes_entryClauses (settings : Settings) {value entry : Text} {score : Option Text}
    (h : entry.words ≠ []) (hscore : isRankEntry entry = true → (score = none ↔ value = [])) :
    Becomes settings value score entry (entryClauses settings score entry) := by
  obtain ⟨first, rest, hwords⟩ := List.exists_cons_of_ne_nil h
  have hrank := isRankEntry_of_words hwords
  unfold entryClauses
  by_cases hentry : isRankEntry entry = true
  · rw [if_pos hentry]
    cases score with
    | none => exact .replaced hwords (hrank.mp hentry) ((hscore hentry).mp rfl)
    | some expression =>
        have hgiven : value ≠ [] := mt (hscore hentry).mpr (Option.some_ne_none expression)
        show Becomes settings value _ entry [expression ++ [' '] ++ direction entry]
        rw [direction_of_words hwords]
        exact .scored hwords (hrank.mp hentry) hgiven rfl
  · rw [if_neg hentry]
    exact .kept hwords (mt hrank.mpr hentry)

/-! ## The pass -/

/-- What a pass over the entries of an order has gathered so far. -/
structure Pass where
  clauses : List Text := []
  /-- The rank expression, once an entry has ordered by it. -/
  rank : Option Text := none
  /-- The rank options, once an entry has needed them. -/
  options : Option RankOptions := none

namespace Pass

variable (lib : Validation) (settings : Settings) (rank : Value) (compiled : Text)

/-- The pass with further clauses. -/
def add (pass : Pass) (clauses : List Text) : Pass :=
  { pass with clauses := pass.clauses ++ clauses }

/-- The rank options of a pass: those that it keeps, or else those that are read now. -/
def readOptions (pass : Pass) : Outcome RankOptions :=
  match pass.options with
  | some options => pure options
  | none => Rank.ofValue lib rank

/-- The rank expression of read options. -/
def expression (options : RankOptions) : Except Fault Text :=
  Rank.expression settings ((Text.given? options.tsv).getD settings.defaultTsv) compiled options

/-- A pass that orders by the score, with the clauses that this score gives. -/
def scored (pass : Pass) (clauses : Text → List Text) : Outcome Pass := do
  let options ← pass.readOptions lib rank
  let expression ← expression settings compiled options
  return {
    clauses := pass.clauses ++ clauses expression
    rank := some expression
    options := some options }

/-- One entry: blank ones are skipped, and rank entries are scored where there is text to score. -/
def step (pass : Pass) (entry : Text) : Outcome Pass :=
  let entry := entry.trim
  match entry.words with
  | [] => pure pass
  | first :: rest =>
    if first.lower ≠ "rank".toList then pure (pass.add [entry])
    else if Query.stripMarker compiled = [] then pure (pass.add settings.defaultOrder)
    else pass.scored lib settings rank compiled fun expression =>
      [expression ++ [' '] ++ if rest = [] then "DESC".toList else Text.joinWords rest]

/-- All entries in order. -/
def run (entries : List Text) (pass : Pass) : Outcome Pass :=
  entries.foldlM (step lib settings rank compiled) pass

/-! ### One entry -/

section Step

variable {lib settings rank compiled} {entry : Text}

/-- A blank entry leaves no clause. -/
theorem step_blank (h : entry.trim = []) (pass : Pass) :
    step lib settings rank compiled pass entry = pure pass := by
  rw [step, h, Text.words_nil]

/-- An entry that is not blank starts with a word. -/
theorem exists_words_trim (h : entry.trim ≠ []) :
    ∃ first rest, entry.trim.words = first :: rest :=
  List.exists_cons_of_ne_nil (Text.words_trim_ne_nil h)

/-- An entry that does not order by rank is a clause, trimmed. -/
theorem step_kept (h : entry.trim ≠ []) (hrank : isRankEntry entry.trim = false) (pass : Pass) :
    step lib settings rank compiled pass entry = pure (pass.add [entry.trim]) := by
  obtain ⟨first, rest, hwords⟩ := exists_words_trim h
  have hother : first.lower ≠ "rank".toList := by
    rw [Ne, ← isRankEntry_of_words hwords, hrank]
    exact Bool.false_ne_true
  rw [step, hwords]
  exact if_pos hother

/-- A rank entry without text to score stands for the default order. -/
theorem step_replaced (h : entry.trim ≠ []) (hrank : isRankEntry entry.trim = true)
    (hempty : Query.stripMarker compiled = []) (pass : Pass) :
    step lib settings rank compiled pass entry = pure (pass.add settings.defaultOrder) := by
  obtain ⟨first, rest, hwords⟩ := exists_words_trim h
  have hfirst : first.lower = "rank".toList := (isRankEntry_of_words hwords).mp hrank
  rw [step, hwords]
  show (if first.lower ≠ "rank".toList then _ else _) = _
  rw [if_neg (not_not_intro hfirst), if_pos hempty]

/-- Any other rank entry is scored. -/
theorem step_scored (h : entry.trim ≠ []) (hrank : isRankEntry entry.trim = true)
    (hgiven : Query.stripMarker compiled ≠ []) (pass : Pass) :
    step lib settings rank compiled pass entry = pass.scored lib settings rank compiled fun expression =>
      entryClauses settings (some expression) entry.trim := by
  obtain ⟨first, rest, hwords⟩ := exists_words_trim h
  have hfirst : first.lower = "rank".toList := (isRankEntry_of_words hwords).mp hrank
  rw [step, hwords]
  show (if first.lower ≠ "rank".toList then _ else _) = _
  rw [if_neg (not_not_intro hfirst), if_neg hgiven]
  simp only [entryClauses, if_pos hrank, direction_of_words hwords]

end Step

/-! ### All entries -/

/-- The result of a pass: where an entry asks for a score and there is text to score, the options
are read once and every clause is written with that score. -/
def result (entries : List Text) (pass : Pass) : Outcome Pass :=
  if (trimmed entries).any isRankEntry = true ∧ Query.stripMarker compiled ≠ [] then
    pass.scored lib settings rank compiled fun expression =>
      (trimmed entries).flatMap (entryClauses settings (some expression))
  else pure (pass.add ((trimmed entries).flatMap (entryClauses settings none)))

section Run

variable {lib settings rank compiled}

/-- Clauses that are there already stay in front of those of a score. -/
theorem scored_add (pass : Pass) (front : List Text) (clauses : Text → List Text) :
    (pass.add front).scored lib settings rank compiled clauses =
      pass.scored lib settings rank compiled fun expression => front ++ clauses expression := by
  simp [scored, add, readOptions]

/-- Entries that ask for no score have the same clauses with and without one. -/
theorem flatMap_entryClauses_of_unranked {entries : List Text}
    (h : entries.any isRankEntry = false) (score : Option Text) :
    entries.flatMap (entryClauses settings score) = entries := by
  induction entries with
  | nil => rfl
  | cons entry entries ih =>
      obtain ⟨hentry, hrest⟩ := Bool.or_eq_false_iff.mp h
      have hclauses : entryClauses settings score entry = [entry] := if_neg (by simp [hentry])
      rw [List.flatMap_cons, hclauses, ih hrest]
      rfl

/-- Behind a scored entry the options are kept, so the entries that follow are scored alike. -/
theorem scored_bind_result (hgiven : Query.stripMarker compiled ≠ []) (pass : Pass)
    (clauses : Text → List Text) (entries : List Text) :
    (pass.scored lib settings rank compiled clauses >>= result lib settings rank compiled entries) =
      pass.scored lib settings rank compiled fun expression =>
        clauses expression ++
          (trimmed entries).flatMap (entryClauses settings (some expression)) := by
  simp only [scored, bind_assoc]
  congr 1
  funext options
  cases hexpression : expression settings compiled options with
  | error fault => simp
  | ok value =>
      cases hrank : (trimmed entries).any isRankEntry with
      | true => simp [result, hrank, hgiven, scored, readOptions, hexpression, Outcome.after]
      | false =>
          simp [result, hrank, add, flatMap_entryClauses_of_unranked hrank, Outcome.after]

/-- **A pass from any state.**  By induction over the entries, with the state open: each entry adds
its clauses, and the first that asks for a score fixes it for the others. -/
theorem run_eq (entries : List Text) (pass : Pass) :
    run lib settings rank compiled entries pass = result lib settings rank compiled entries pass := by
  induction entries generalizing pass with
  | nil => simp [run, result, trimmed, add]
  | cons entry entries ih =>
      have hcons : run lib settings rank compiled (entry :: entries) pass =
          step lib settings rank compiled pass entry >>= run lib settings rank compiled entries :=
        List.foldlM_cons
      have hrest : run lib settings rank compiled entries = result lib settings rank compiled entries :=
        funext ih
      rw [hcons, hrest]
      by_cases hblank : entry.trim = []
      · rw [step_blank hblank, pure_bind, result, result, trimmed_cons_of_blank hblank]
      · cases hrank : isRankEntry entry.trim with
        | false =>
            have hclauses : ∀ score, entryClauses settings score entry.trim = [entry.trim] :=
              fun score => if_neg (by simp [hrank])
            rw [step_kept hblank hrank, pure_bind, result, result, trimmed_cons hblank,
              List.any_cons, hrank, Bool.false_or]
            split
            · rw [scored_add]
              simp only [List.flatMap_cons, hclauses]
            · simp only [List.flatMap_cons, hclauses, add, List.append_assoc]
        | true =>
            by_cases hempty : Query.stripMarker compiled = []
            · have hclauses : entryClauses settings none entry.trim = settings.defaultOrder :=
                if_pos hrank
              rw [step_replaced hblank hrank hempty, pure_bind, result, result,
                if_neg (fun h => h.2 hempty), if_neg (fun h => h.2 hempty), trimmed_cons hblank,
                List.flatMap_cons, hclauses]
              simp only [add, List.append_assoc]
            · rw [step_scored hblank hrank hempty, scored_bind_result hempty, result,
                trimmed_cons hblank, List.any_cons, hrank, Bool.true_or, if_pos ⟨rfl, hempty⟩]
              simp only [List.flatMap_cons]

end Run

end Pass

/-- The ordering that a pass over the entries gives. -/
def inTurn (lib : Validation) (settings : Settings) (order rank : Value) (query : Option Text) :
    Outcome Ordering := do
  let compiled ← compileGiven query
  let given ← entries settings order
  let pass ← Pass.run lib settings rank compiled given {}
  return { clauses := pass.clauses, rank := pass.rank }

/-- **An ordering is the result of the pass**, in its answers and warnings as in its faults. -/
theorem ordering_eq_inTurn (lib : Validation) (settings : Settings) (order rank : Value)
    (query : Option Text) :
    ordering lib settings order rank query = inTurn lib settings order rank query := by
  rw [ordering, inTurn]
  congr 1
  funext compiled
  congr 1
  funext given
  rw [Pass.run_eq, Pass.result]
  by_cases hscore : (trimmed given).any isRankEntry = true ∧ Query.stripMarker compiled ≠ []
  · rw [if_pos hscore, if_pos hscore]
    simp [score, Pass.scored, Pass.readOptions, Pass.expression, map_eq_pure_bind]
  · rw [if_neg hscore, if_neg hscore]
    simp [Pass.add]

/-! ## What an ordering is made of -/

section Parts

variable {lib : Validation} {settings : Settings} {order rank : Value} {query : Option Text}
  {compiled : Text} {given : List Text}

/-- Entries that are scored are so in the words of the ordering. -/
theorem scores_iff (entries : List Text) (value : Text) :
    (entries.any isRankEntry = true ∧ value ≠ []) ↔ Scores entries value := by
  rw [Scores, List.any_eq_true, and_comm]

/-- An item without a text fails an order, whatever the query. -/
theorem ordering_of_no_entries {fault : Fault} (hcompiled : compileGiven query = .ok compiled)
    (hentries : entries settings order = .error fault) :
    ordering lib settings order rank query = .fault fault := by
  rw [ordering, hcompiled, hentries]
  rfl

/-- Where nothing is scored, the entries are all that there is. -/
theorem ordering_of_not_scores (hcompiled : compileGiven query = .ok compiled)
    (hentries : entries settings order = .ok given)
    (h : ¬ Scores (trimmed given) (Query.stripMarker compiled)) :
    ordering lib settings order rank query =
      .answer ⟨(trimmed given).flatMap (entryClauses settings none), none⟩ [] := by
  rw [ordering, hcompiled, hentries]
  simp only [Outcome.liftM_ok, Outcome.answer_bind, Outcome.after_nil, Outcome.pure_eq,
    if_neg (mt (scores_iff _ _).mp h)]

/-- Where an entry is scored, the score comes first and all clauses are written with it. -/
theorem ordering_of_scores (hcompiled : compileGiven query = .ok compiled)
    (hentries : entries settings order = .ok given)
    (h : Scores (trimmed given) (Query.stripMarker compiled)) :
    ordering lib settings order rank query = (do
      let expression ← score lib settings rank compiled
      return ⟨(trimmed given).flatMap (entryClauses settings (some expression)),
        some expression⟩) := by
  rw [ordering, hcompiled, hentries]
  simp only [Outcome.liftM_ok, Outcome.answer_bind, Outcome.after_nil,
    if_pos ((scores_iff _ _).mpr h), map_eq_pure_bind, bind_assoc, pure_bind]

end Parts

/-- **An ordering of entries**, with the warnings on the way to it, given the text of the query and
the score that this text would have. -/
structure Orders (settings : Settings) (entries : List Text) (value : Text) (score : Outcome Text)
    (o : Ordering) (given : List Warning) : Prop where
  clauses : o.clauses = entries.flatMap (entryClauses settings o.rank)
  scored : Scores entries value →
    ∃ expression, o.rank = some expression ∧ score = .answer expression given
  unscored : ¬ Scores entries value → o.rank = none ∧ given = []

/-- Every answer to an order is made so from its entries. -/
theorem orders_of_ordering {lib : Validation} {settings : Settings} {order rank : Value}
    {query : Option Text} {o : Ordering} {given : List Warning}
    (h : ordering lib settings order rank query = .answer o given) :
    ∃ compiled asked, compileGiven query = .ok compiled ∧ entries settings order = .ok asked ∧
      Orders settings (trimmed asked) (Query.stripMarker compiled)
        (score lib settings rank compiled) o given := by
  have hsteps := h
  rw [ordering] at hsteps
  obtain ⟨compiled, _, _, hlift, hrest, -⟩ := Outcome.bind_eq_answer_iff.mp hsteps
  obtain ⟨hcompiled, -⟩ := Outcome.liftM_eq_answer_iff.mp hlift
  obtain ⟨asked, _, _, hlift, -, -⟩ := Outcome.bind_eq_answer_iff.mp hrest
  obtain ⟨hentries, -⟩ := Outcome.liftM_eq_answer_iff.mp hlift
  refine ⟨compiled, asked, hcompiled, hentries, ?_⟩
  by_cases hscores : Scores (trimmed asked) (Query.stripMarker compiled)
  · rw [ordering_of_scores hcompiled hentries hscores] at h
    obtain ⟨expression, _, _, hexpression, hanswer, rfl⟩ := Outcome.bind_eq_answer_iff.mp h
    obtain ⟨rfl, rfl⟩ := Outcome.answer.inj hanswer
    refine ⟨rfl, fun _ => ⟨expression, rfl, ?_⟩, fun hnot => absurd hscores hnot⟩
    simpa using hexpression
  · rw [ordering_of_not_scores hcompiled hentries hscores] at h
    obtain ⟨rfl, rfl⟩ := Outcome.answer.inj h
    exact ⟨rfl, fun hyes => absurd hyes hscores, fun _ => ⟨rfl, rfl⟩⟩

/-- The clauses of an entry in an ordering are what it becomes. -/
theorem Orders.becomes {settings : Settings} {entries : List Text} {value : Text}
    {score : Outcome Text} {o : Ordering} {given : List Warning}
    (h : Orders settings entries value score o given) {entry : Text} (hentry : entry ∈ entries)
    (hwords : entry.words ≠ []) :
    Becomes settings value o.rank entry (entryClauses settings o.rank entry) := by
  refine becomes_entryClauses settings hwords fun hrank => ?_
  by_cases hempty : value = []
  · have hnone : o.rank = none := (h.unscored fun hscores => hscores.1 hempty).1
    simp [hnone, hempty]
  · obtain ⟨expression, hsome, -⟩ := h.scored ⟨hempty, entry, hentry, hrank⟩
    simp [hsome, hempty]

/-! ### The query -/

/-- The normalized text of a query that may be missing. -/
def queryText : Option Text → Except Fault Text
  | none => .ok []
  | some query => Query.normalize query

/-- The text of a query that compiles is its compiled form without the marker. -/
theorem queryText_of_compileGiven {query : Option Text} {compiled : Text}
    (h : compileGiven query = .ok compiled) :
    queryText query = .ok (Query.stripMarker compiled) := by
  match query, h with
  | none, h =>
      obtain rfl : [] = compiled := Except.ok.inj h
      rfl
  | some [], h =>
      obtain rfl : [] = compiled := Except.ok.inj h
      rfl
  | some (c :: rest), h => exact Query.normalize_of_compile h

/-- A query with a normalized text is compiled, to a text that normalizes like the typed one. -/
theorem exists_compileGiven_of_queryText {query : Option Text} {value : Text}
    (h : queryText query = .ok value) :
    ∃ compiled, compileGiven query = .ok compiled ∧ Query.stripMarker compiled = value ∧
      Query.normalize compiled = .ok value := by
  cases query with
  | none =>
      obtain rfl : [] = value := Except.ok.inj h
      exact ⟨[], rfl, rfl, rfl⟩
  | some query =>
      have hvalue : Query.normalize query = .ok value := h
      cases hcompile : Query.compile query with
      | error fault =>
          rw [Query.normalize_of_compile_error hcompile] at hvalue
          cases hvalue
      | ok compiled =>
          obtain ⟨given, hgiven, hstrip, hnormalize⟩ := exists_compileGiven hcompile
          rw [Query.normalize_compile hcompile, hvalue] at hnormalize
          rw [Query.normalize_of_compile hcompile] at hvalue
          exact ⟨given, hgiven, hstrip.trans (Except.ok.inj hvalue), hnormalize⟩

/-! ### The score -/

section Score

variable {lib : Validation} {rank : Value} {options : RankOptions} {warnings : List Warning}
  (hrank : Rank.ofValue lib rank = .answer options warnings)
include hrank

/-- A score is the rank expression over the vector of the options, or else of the settings. -/
theorem score_eq_rankExpression (settings : Settings) (query : Text) :
    score lib settings rank query = rankExpression lib settings
      ((Text.given? options.tsv).getD settings.defaultTsv) query rank := by
  rw [score, rankExpression, hrank]
  rfl

/-- Where options are read, a rank expression of text with a normal form gives no warnings but those
of the options, and it is written where the normalization is. -/
theorem rankExpression_eq {query value : Text} (h : Query.normalize query = .ok value)
    (settings : Settings) (tsv : Text) :
    rankExpression lib settings tsv query rank =
      (Outcome.ofExcept ((Rank.normalizationText settings options).map fun normalization =>
        (rankTemplate tsv options normalization).fill (literal value))).after warnings := by
  rw [rankExpression, hrank, Outcome.answer_bind, expression_eq_map_fill h]
  rfl

/-- A rank expression that answers gives the warnings of its options. -/
theorem warnings_of_rankExpression {settings : Settings} {tsv query expression : Text}
    {given : List Warning}
    (h : rankExpression lib settings tsv query rank = .answer expression given) :
    given = warnings := by
  rw [rankExpression, hrank, Outcome.answer_bind] at h
  obtain ⟨_, hlift, rfl⟩ := Outcome.after_eq_answer_iff.mp h
  rw [(Outcome.liftM_eq_answer_iff.mp hlift).2, List.append_nil]

/-- The rank expression of options that are read is written exactly if the normalization is. -/
theorem exists_rankExpression_iff {query value : Text} (h : Query.normalize query = .ok value)
    (settings : Settings) (tsv : Text) :
    (∃ expression, rankExpression lib settings tsv query rank = .answer expression warnings) ↔
      Numeral.Writable (options.normalization.getD settings.defaultNormalization) := by
  rw [rankExpression_eq hrank h]
  constructor
  · rintro ⟨expression, hexpression⟩
    cases hnormalization : Rank.normalizationText settings options with
    | error fault =>
        rw [hnormalization] at hexpression
        cases hexpression
    | ok normalization => exact (Rank.normalizationText_eq_ok_iff.mp hnormalization).1
  · intro hwritable
    rw [Rank.normalizationText_eq_ok_iff.mpr ⟨hwritable, rfl⟩]
    exact ⟨_, congrArg (Outcome.answer _) (List.append_nil warnings)⟩

end Score

/-- The clauses of entries are what they become, one after another. -/
theorem exists_becomes_flatten (settings : Settings) (score : Option Text) (value : Text)
    {entries : List Text} (hwords : ∀ entry ∈ entries, entry.words ≠ [])
    (hscore : ∀ entry ∈ entries, isRankEntry entry = true → (score = none ↔ value = [])) :
    ∃ parts, List.Forall₂ (Becomes settings value score) entries parts ∧
      entries.flatMap (entryClauses settings score) = parts.flatten :=
  ⟨entries.map (entryClauses settings score),
    List.forall₂_map_right_iff.mpr (List.forall₂_same.mpr fun entry hentry =>
      becomes_entryClauses settings (hwords entry hentry) (hscore entry hentry)),
    List.flatMap_def⟩

/-- **An ordering, entry by entry.**  Given that the query has a text and the rank options are read,
the order comes to what a pass over its entries does.  An item of a list without a text fails it.  With
nothing to score it is answered without warnings, and without a rank expression.  Else the score is the
rank expression of the typed query, over the vector of the options or of the settings: if that fails,
so does the order, and if it answers, so does the order, with the warnings of one reading of the
options.  The clauses are what the entries become, one after another.  The score answers exactly if the
normalization can be written. -/
theorem ordering_entry_by_entry (lib : Validation) (settings : Settings) (order rank : Value)
    (query : Option Text) {value : Text} {options : RankOptions} {warnings : List Warning}
    (hquery : queryText query = .ok value)
    (hrank : Rank.ofValue lib rank = .answer options warnings) :
    ordering lib settings order rank query = inTurn lib settings order rank query ∧
    (∀ fault, requested settings order = .error fault →
      ordering lib settings order rank query = .fault fault) ∧
    ∀ asked, requested settings order = .ok asked →
      (¬ Scores (trimmed asked) value →
        ∃ o parts, ordering lib settings order rank query = .answer o [] ∧ o.rank = none ∧
          List.Forall₂ (Becomes settings value none) (trimmed asked) parts ∧
          o.clauses = parts.flatten) ∧
      (Scores (trimmed asked) value → ∃ typed score, query = some typed ∧
        score = rankExpression lib settings
          ((Text.given? options.tsv).getD settings.defaultTsv) typed rank ∧
        (∀ fault, score = .fault fault →
          ordering lib settings order rank query = .fault fault) ∧
        (∀ expression given, score = .answer expression given → given = warnings ∧
          ∃ o parts, ordering lib settings order rank query = .answer o warnings ∧
            o.rank = some expression ∧
            List.Forall₂ (Becomes settings value (some expression)) (trimmed asked) parts ∧
            o.clauses = parts.flatten) ∧
        ((∃ expression, score = .answer expression warnings) ↔
          Numeral.Writable (options.normalization.getD settings.defaultNormalization))) := by
  obtain ⟨compiled, hcompiled, rfl, hnormalize⟩ := exists_compileGiven_of_queryText hquery
  refine ⟨ordering_eq_inTurn .., ?_, ?_⟩
  · intro fault hfault
    refine ordering_of_no_entries hcompiled ?_
    exact entries_eq_error_of_requested hfault
  intro asked hasked
  obtain ⟨given, hentries, hgiven⟩ := exists_entries_of_requested hasked
  rw [← hgiven]
  have hwords : ∀ entry ∈ trimmed given, entry.words ≠ [] :=
    fun entry => words_ne_nil_of_mem_trimmed
  refine ⟨?_, ?_⟩
  · intro hscores
    obtain ⟨parts, hparts, hflatten⟩ := exists_becomes_flatten settings none
      (Query.stripMarker compiled) hwords fun entry hentry hentryRank =>
        iff_of_true rfl (by_contra fun hne => hscores ⟨hne, entry, hentry, hentryRank⟩)
    exact ⟨_, parts, ordering_of_not_scores hcompiled hentries hscores, rfl, hparts, hflatten⟩
  · intro hscores
    cases query with
    | none => exact absurd (Except.ok.inj hquery).symm hscores.1
    | some typed =>
        have hsame : Query.normalize compiled = Query.normalize typed := hnormalize.trans hquery.symm
        have hscore := score_congr hsame lib settings rank
        rw [score_eq_rankExpression hrank, score_eq_rankExpression hrank] at hscore
        have hordering : ordering lib settings order rank (some typed) = _ :=
          ordering_of_scores hcompiled hentries hscores
        rw [score_eq_rankExpression hrank, hscore] at hordering
        refine ⟨typed, _, rfl, rfl, ?_, ?_, exists_rankExpression_iff hrank hquery settings _⟩
        · intro fault hfault
          rw [hordering, hfault]
          rfl
        · intro expression warnings' hexpression
          obtain rfl := warnings_of_rankExpression hrank hexpression
          obtain ⟨parts, hparts, hflatten⟩ := exists_becomes_flatten settings (some expression)
            (Query.stripMarker compiled) hwords fun _ _ _ =>
              iff_of_false (Option.some_ne_none expression) hscores.1
          refine ⟨rfl, ⟨_, some expression⟩, parts, ?_, rfl, hparts, hflatten⟩
          rw [hordering, hexpression]
          exact congrArg (Outcome.answer _) (List.append_nil _)

/-- A list with blank entries, an entry of another kind and two rank entries, of which one names a
direction. -/
def mixedOrder : Value :=
  .list [.text " ".toList, .text "title ".toList, .text "RANK asc  nulls last".toList, .int 5,
    .text "rank".toList]

/-- Rank options with a weight for no label, which leaves a warning, and one for the label `A`. -/
def oneWeight : Value :=
  .mapping [(.text "_w".toList,
    .mapping [(.text "X".toList, .int 1), (.text "a".toList, .int 1)])]

/-- The order of `mixedOrder` under `oneWeight`: one reading of the options serves both rank entries,
and leaves its one warning. -/
theorem ordering_entry_by_entry_mixed :
    ∃ options asked, queryText (some "-cats dogs".toList) = .ok "!cats & dogs".toList ∧
      Rank.ofValue .standard oneWeight = .answer options [.unknownWeightLabel] ∧
      requested {} mixedOrder = .ok asked ∧ Scores (trimmed asked) "!cats & dogs".toList ∧
      ∃ o parts expression,
        ordering .standard {} mixedOrder oneWeight (some "-cats dogs".toList) =
          .answer o [.unknownWeightLabel] ∧
        o.rank = some expression ∧
        List.Forall₂ (Becomes {} "!cats & dogs".toList (some expression)) (trimmed asked) parts ∧
        o.clauses = parts.flatten := by
  have hquery : queryText (some "-cats dogs".toList) = .ok "!cats & dogs".toList := rfl
  obtain ⟨options, hrank, hnormalization⟩ : ∃ options,
      Rank.ofValue .standard oneWeight = .answer options [.unknownWeightLabel] ∧
        options.normalization = none := ⟨_, rfl, rfl⟩
  obtain ⟨asked, hasked, hscores⟩ : ∃ asked, requested {} mixedOrder = .ok asked ∧
      Scores (trimmed asked) "!cats & dogs".toList :=
    ⟨_, rfl, by decide, "rank".toList, by decide +kernel, by decide +kernel⟩
  obtain ⟨-, -, h⟩ :=
    ordering_entry_by_entry .standard {} mixedOrder oneWeight (some "-cats dogs".toList) hquery hrank
  obtain ⟨typed, score, -, -, -, hanswers, hwritten⟩ := (h asked hasked).2 hscores
  have hwritable : Numeral.Writable
      (options.normalization.getD ({} : Settings).defaultNormalization) := by
    rw [hnormalization]
    decide
  obtain ⟨expression, hexpression⟩ := hwritten.mpr hwritable
  obtain ⟨-, o, parts, ho, hrank', hparts, hclauses⟩ := hanswers expression _ hexpression
  exact ⟨options, asked, hquery, hrank, hasked, hscores, o, parts, expression, ho, hrank', hparts,
    hclauses⟩

end Sql

end FullTextSearch
