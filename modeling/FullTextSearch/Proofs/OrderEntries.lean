/-
# `FullTextSearch.Proofs.OrderEntries` — the entries of an order, however it is given.

An order comes as one text with commas, as a list of texts, or from an environment variable by way
of the settings.  A text and a variable are cut by two different rules: the variable is trimmed
first, and its cut drops the empty pieces but keeps blanks in front of a comma.  Both cuts, and the
plain cut at every comma, have the same pieces once these are trimmed and the blank ones dropped
(`trimmed_commaList`, `trimmed_orderClauses`), and an ordering looks at nothing else of its order
(`ordering_congr`).  The main statement is `ordering_of_same_pieces`.
-/
import FullTextSearch.Proofs.Words
import FullTextSearch.Proofs.WrittenValues
import FullTextSearch.Settings.EnvFile
import FullTextSearch.Sql.Ordering
import FullTextSearch.Value.Standard

namespace FullTextSearch

namespace Text

/-! ## Cutting at commas -/

/-- A code point that is no comma joins the first piece. -/
theorem exists_splitOn_cons {c : Char} (hc : c ≠ ',') (t : Text) :
    ∃ first rest, t.splitOn ',' = first :: rest ∧
      (c :: t).splitOn ',' = (c :: first) :: rest := by
  obtain ⟨first, rest, hsplit⟩ := List.exists_cons_of_ne_nil (List.splitOn_ne_nil ',' t)
  refine ⟨first, rest, hsplit, ?_⟩
  rw [List.splitOn_cons_eq_if_modifyHead, if_neg (by simpa using hc), hsplit]
  rfl

theorem splitOn_comma_cons (t : Text) : (',' :: t).splitOn ',' = [] :: t.splitOn ',' := by
  rw [List.splitOn_cons_eq_if_modifyHead, if_pos (beq_self_eq_true ',')]

theorem ne_comma_of_blank {c : Char} (hc : isBlank c = true) : c ≠ ',' := by
  rintro rfl
  exact absurd hc (by decide)

/-- Trimming the start first makes no difference to trimming. -/
theorem trim_trimStart (t : Text) : trim (trimStart t) = trim t := by
  induction t with
  | nil => rfl
  | cons c t ih =>
      cases hc : isBlank c with
      | true =>
          have hdrop : trimStart (c :: t) = trimStart t := List.dropWhile_cons_of_pos hc
          rw [hdrop, trim_cons_of_blank hc, ih]
      | false => rw [trimStart_cons_of_not_blank hc]

/-- Blanks behind a comma are trimmed off the pieces anyway. -/
theorem map_trim_commaList (t : Text) :
    (commaList t).map trim = (t.splitOn ',').map trim := by
  have hrest : ∀ rest : List Text, (rest.map trimStart).map trim = rest.map trim := by
    intro rest
    rw [List.map_map]
    exact List.map_congr_left fun piece _ => trim_trimStart piece
  rw [commaList]
  cases t.splitOn ',' with
  | nil => rfl
  | cons first rest =>
      show trim first :: (rest.map trimStart).map trim = trim first :: rest.map trim
      rw [hrest]

/-- Blanks at the start of a text are trimmed off its first piece anyway. -/
theorem map_trim_splitOn_trimStart (t : Text) :
    ((trimStart t).splitOn ',').map trim = (t.splitOn ',').map trim := by
  induction t with
  | nil => rfl
  | cons c t ih =>
      cases hc : isBlank c with
      | true =>
          obtain ⟨first, rest, hsplit, hcons⟩ := exists_splitOn_cons (ne_comma_of_blank hc) t
          have hdrop : trimStart (c :: t) = trimStart t := List.dropWhile_cons_of_pos hc
          rw [hdrop, ih, hsplit, hcons, List.map_cons, List.map_cons, trim_cons_of_blank hc]
      | false => rw [trimStart_cons_of_not_blank hc]

/-- Blanks at the end of a text are trimmed off its last piece anyway.  The induction runs from the
start of the text, where a code point joins the first piece of both cuts alike; only when nothing
but blanks follows is there no piece for it to join. -/
theorem map_trimEnd_splitOn_trimEnd (t : Text) :
    ((trimEnd t).splitOn ',').map trimEnd = (t.splitOn ',').map trimEnd := by
  induction t with
  | nil => rfl
  | cons c t ih =>
      rw [trimEnd_cons]
      split
      · next hnone =>
          obtain ⟨first, rest, hsplit, hcons⟩ := exists_splitOn_cons (ne_comma_of_blank hnone.2) t
          rw [hnone.1, hsplit] at ih
          obtain ⟨hfirst, hrest⟩ := List.cons.inj ih
          rw [hcons, List.map_cons, trimEnd_cons, if_pos ⟨hfirst.symm, hnone.2⟩, ← hrest]
          rfl
      · by_cases hc : c = ','
        · subst hc
          rw [splitOn_comma_cons, splitOn_comma_cons, List.map_cons, List.map_cons, ih]
        · obtain ⟨first, rest, hsplit, hcons⟩ := exists_splitOn_cons hc t
          obtain ⟨first', rest', hsplit', hcons'⟩ := exists_splitOn_cons hc (trimEnd t)
          rw [hsplit, hsplit'] at ih
          obtain ⟨hfirst, hrest⟩ := List.cons.inj ih
          rw [hcons, hcons', List.map_cons, List.map_cons, trimEnd_cons, trimEnd_cons c first,
            hfirst, hrest]

/-- **A trimmed text has the same trimmed pieces.** -/
theorem map_trim_splitOn_trim (t : Text) :
    ((trim t).splitOn ',').map trim = (t.splitOn ',').map trim := by
  have htrim : ∀ pieces : List Text, pieces.map trim = (pieces.map trimEnd).map trimStart := by
    intro pieces
    rw [List.map_map]
    exact List.map_congr_left fun piece _ => trim_eq_trimStart_trimEnd piece
  rw [trim_eq_trimStart_trimEnd, map_trim_splitOn_trimStart, htrim, map_trimEnd_splitOn_trimEnd,
    ← htrim]

/-- An empty text and a missing one are the same list of nothing. -/
theorem getD_given? (text : Option Text) : (given? text).getD [] = text.getD [] := by
  rcases text with _ | _ | ⟨c, rest⟩ <;> rfl

end Text

namespace Sql

/-! ## Trimmed entries -/

/-- A blank entry is dropped. -/
theorem trimmed_cons_of_blank {entry : Text} (h : entry.trim = []) (entries : List Text) :
    trimmed (entry :: entries) = trimmed entries := by
  rw [trimmed, List.map_cons, List.filter_cons_of_neg (by simp [h]), ← trimmed]

/-- Any other entry is trimmed. -/
theorem trimmed_cons {entry : Text} (h : entry.trim ≠ []) (entries : List Text) :
    trimmed (entry :: entries) = entry.trim :: trimmed entries := by
  rw [trimmed, List.map_cons, List.filter_cons_of_pos (by simp [h]), ← trimmed]

/-- Entries that differ in the blanks around them are trimmed to the same. -/
theorem trimmed_congr {entries entries' : List Text}
    (h : entries.map Text.trim = entries'.map Text.trim) : trimmed entries = trimmed entries' := by
  rw [trimmed, trimmed, h]

/-- What is left of an entry holds a word. -/
theorem words_ne_nil_of_mem_trimmed {entries : List Text} {entry : Text}
    (h : entry ∈ trimmed entries) : entry.words ≠ [] := by
  obtain ⟨hentry, hne⟩ := List.mem_filter.mp h
  obtain ⟨given, -, rfl⟩ := List.mem_map.mp hentry
  exact Text.words_trim_ne_nil (by simpa using hne)

/-- Entries are left where one of them is more than blanks. -/
theorem trimmed_ne_nil {entries : List Text} {entry : Text} (hmem : entry ∈ entries)
    (h : entry.isAllBlank = false) : trimmed entries ≠ [] := by
  have hne : entry.trim ≠ [] := by
    rw [Ne, Text.trim_eq_nil_iff, h]
    exact Bool.false_ne_true
  have hleft : entry.trim ∈ trimmed entries :=
    List.mem_filter.mpr ⟨List.mem_map_of_mem hmem, by simpa using hne⟩
  exact List.ne_nil_of_mem hleft

/-- Empty entries are dropped sooner or later. -/
theorem trimmed_filter (entries : List Text) :
    trimmed (entries.filter fun entry => !entry.isEmpty) = trimmed entries := by
  induction entries with
  | nil => rfl
  | cons entry entries ih =>
      cases entry with
      | nil => rw [List.filter_cons_of_neg (by simp), ih, trimmed_cons_of_blank rfl]
      | cons c rest =>
          rw [List.filter_cons_of_pos rfl]
          by_cases hblank : Text.trim (c :: rest) = []
          · rw [trimmed_cons_of_blank hblank, trimmed_cons_of_blank hblank, ih]
          · rw [trimmed_cons hblank, trimmed_cons hblank, ih]

/-- The cut that takes the blanks behind a comma has the entries of the plain cut. -/
theorem trimmed_commaList (list : Text) : trimmed list.commaList = trimmed (list.splitOn ',') :=
  trimmed_congr (Text.map_trim_commaList list)

/-- The clauses in a variable have the entries of the plain cut. -/
theorem trimmed_orderClauses (list : Text) :
    trimmed (Environment.orderClauses list) = trimmed (list.splitOn ',') := by
  rw [Environment.orderClauses, trimmed_filter, trimmed_commaList]
  exact trimmed_congr (Text.map_trim_splitOn_trim list)

/-- What an order asks for: the pieces of a text between its commas, the items of a list or a tuple
by their texts, nothing for `false`, and the default order otherwise. -/
def requested (settings : Settings) : Value → Except Fault (List Text)
  | .bool false => .ok []
  | .text list => .ok (list.splitOn ',')
  | .function f => .ok (f.name.splitOn ',')
  | .list items | .tuple items => items.mapM Value.plain
  | _ => .ok settings.defaultOrder

/-- The entries of an order are what it asks for, once they are trimmed. -/
theorem map_trimmed_entries (settings : Settings) (order : Value) :
    (entries settings order).map trimmed = (requested settings order).map trimmed := by
  cases order with
  | bool wanted => cases wanted <;> rfl
  | text list => exact congrArg Except.ok (trimmed_commaList list)
  | function f => exact congrArg Except.ok (trimmed_commaList f.name)
  | null | int | float | octets | list | tuple | mapping | rankOptions | searchOptions | other => rfl

/-- Where an order asks for something, its entries are the same once they are trimmed. -/
theorem exists_entries_of_requested {settings : Settings} {order : Value} {asked : List Text}
    (h : requested settings order = .ok asked) :
    ∃ given, entries settings order = .ok given ∧ trimmed given = trimmed asked := by
  have hsame := map_trimmed_entries settings order
  rw [h] at hsame
  cases hentries : entries settings order with
  | error fault =>
      rw [hentries] at hsame
      cases hsame
  | ok given =>
      rw [hentries] at hsame
      exact ⟨given, rfl, Except.ok.inj hsame⟩

/-- What has no text in an order has none among the entries. -/
theorem entries_eq_error_of_requested {settings : Settings} {order : Value} {fault : Fault}
    (h : requested settings order = .error fault) : entries settings order = .error fault := by
  have hsame := map_trimmed_entries settings order
  rw [h] at hsame
  cases hentries : entries settings order with
  | error fault' =>
      rw [hentries] at hsame
      cases hsame
      rfl
  | ok given =>
      rw [hentries] at hsame
      cases hsame

/-- An ordering is made of the trimmed entries. -/
theorem ordering_eq_bind (lib : Validation) (settings : Settings) (order rank : Value)
    (query : Option Text) :
    ordering lib settings order rank query = (do
      let compiled ← compileGiven query
      let entries ← (entries settings order).map trimmed
      let score ←
        if entries.any isRankEntry ∧ Query.stripMarker compiled ≠ [] then
          some <$> score lib settings rank compiled
        else pure none
      return { clauses := entries.flatMap (entryClauses settings score), rank := score }) := by
  rw [ordering]
  cases entries settings order <;> rfl

/-- **An ordering looks at trimmed entries only**, beside the settings of a rank expression. -/
theorem ordering_congr {lib : Validation} {settings : Settings} {order order' : Value}
    (h : (entries settings order).map trimmed = (entries settings order').map trimmed)
    (rank : Value) (query : Option Text) :
    ordering lib settings order rank query = ordering lib settings order' rank query := by
  rw [ordering_eq_bind, ordering_eq_bind, h]

end Sql

/-! ## The order of an environment -/

namespace Environment

/-- A variable always gives an integer, its own or the default. -/
theorem exists_integer (value : Option Text) (default : Int) :
    ∃ n warnings, integer value default = .answer n warnings := by
  cases value with
  | none => exact ⟨default, [], rfl⟩
  | some t =>
      show ∃ n warnings, (if t.isAllBlank then pure default else _) = Outcome.answer n warnings
      split
      · exact ⟨default, [], rfl⟩
      · cases Numeral.read t with
        | ok n => exact ⟨n, [], rfl⟩
        | error fault => exact ⟨default, [.settingNotInteger], rfl⟩

/-- An environment always has settings; their default order is in its variable, if that holds a
clause. -/
theorem exists_settings {env : Environment} {list : Text}
    (h : env.get? "TEXT_QUERY_DEFAULT_ORDER" = some list) (hclauses : orderClauses list ≠ []) :
    ∃ cfg warnings, env.settings = .answer cfg warnings ∧
      cfg.defaultOrder = orderClauses list := by
  obtain ⟨n, warnings, hinteger⟩ :=
    exists_integer (env.get? "TEXT_QUERY_NORMALIZATION") ({} : Settings).defaultNormalization
  rw [settings]
  simp only [h, hinteger, Text.getD_given?, Option.getD_some, Outcome.answer_bind,
    Outcome.pure_eq, if_neg hclauses]
  exact ⟨_, _, rfl, rfl⟩

end Environment

namespace Sql

/-- **The ways of giving an order agree.**  A text and the list of its pieces, cut at every comma
and with any blanks around them, give the same ordering, warnings and faults included.  Where a
variable holds a text with a piece that is more than blanks, the settings of that environment order
by default as the text does, whatever loads its file of variables. -/
theorem ordering_of_same_pieces (lib : Validation) (loader : EnvLoader) (list : Text) :
    (∀ (settings : Settings) (rank : Value) (query : Option Text) (pieces : List Text),
      pieces.map Text.trim = (list.splitOn ',').map Text.trim →
        ordering lib settings (.text list) rank query =
            ordering lib settings (.list (pieces.map .text)) rank query ∧
          ordering lib settings (.text list) rank query =
            ordering lib settings (.tuple (pieces.map .text)) rank query) ∧
    (∀ (env full : Environment) (file : Option Text), env.loadOnRequest loader file = .ok full →
      full.get? "TEXT_QUERY_DEFAULT_ORDER" = some list →
      (∃ piece ∈ list.splitOn ',', Text.isAllBlank piece = false) →
        ∃ cfg warnings, env.loadSettings loader file = .answer cfg warnings ∧
          ∀ rank query, ordering lib cfg .null rank query =
            ordering lib cfg (.text list) rank query) := by
  constructor
  · intro settings rank query pieces hpieces
    have hsame : ∀ choice : List Value → Value,
        (∀ items, requested settings (choice items) = items.mapM Value.plain) →
          ordering lib settings (.text list) rank query =
            ordering lib settings (choice (pieces.map .text)) rank query := by
      intro choice hchoice
      refine ordering_congr ?_ rank query
      rw [map_trimmed_entries, map_trimmed_entries, hchoice, Value.mapM_plain_text]
      exact congrArg Except.ok (trimmed_congr hpieces).symm
    exact ⟨hsame .list fun _ => rfl, hsame .tuple fun _ => rfl⟩
  · rintro env full file hload hvariable ⟨piece, hpiece, hblank⟩
    have hclauses : Environment.orderClauses list ≠ [] := by
      intro hnone
      refine trimmed_ne_nil hpiece hblank ?_
      rw [← trimmed_orderClauses, hnone]
      rfl
    obtain ⟨cfg, warnings, hsettings, horder⟩ := Environment.exists_settings hvariable hclauses
    refine ⟨cfg, warnings, ?_, fun rank query => ordering_congr ?_ rank query⟩
    · rw [Environment.loadSettings, hload]
      exact (Outcome.after_nil _).trans hsettings
    · rw [map_trimmed_entries, map_trimmed_entries]
      show Except.ok (trimmed cfg.defaultOrder) = Except.ok (trimmed (list.splitOn ','))
      rw [horder, trimmed_orderClauses]

/-- A list with wide blanks around its commas, with an empty piece and one of blanks. -/
def wideList : Text := "rank asc\u00a0,\u2003title ,,\u3000, Rank".toList

/-- The pieces of `wideList`, with other blanks around them. -/
def widePieces : List Text :=
  ["rank asc".toList, "\ttitle".toList, [], ['\u2003'], " Rank".toList]

/-- The order of `wideList` is that of `widePieces`, and the default where a variable holds it. -/
theorem ordering_of_same_pieces_wide :
    widePieces.map Text.trim = (wideList.splitOn ',').map Text.trim ∧
      (∃ piece ∈ wideList.splitOn ',', Text.isAllBlank piece = false) ∧
      ordering .standard {} (.text wideList) .null (some "cats".toList) =
        ordering .standard {} (.list (widePieces.map .text)) .null (some "cats".toList) ∧
      ∃ cfg warnings,
        Environment.loadSettings EnvFile.loader [("TEXT_QUERY_DEFAULT_ORDER".toList, wideList)]
          none = .answer cfg warnings ∧
        ∀ rank query, ordering .standard cfg .null rank query =
          ordering .standard cfg (.text wideList) rank query := by
  obtain ⟨hgiven, hvariable⟩ := ordering_of_same_pieces .standard EnvFile.loader wideList
  have hpieces : widePieces.map Text.trim = (wideList.splitOn ',').map Text.trim := by
    decide +kernel
  have hclause : ∃ piece ∈ wideList.splitOn ',', Text.isAllBlank piece = false := by
    decide +kernel
  exact ⟨hpieces, hclause, (hgiven {} .null _ _ hpieces).1, hvariable _ _ none rfl rfl hclause⟩

end Sql

end FullTextSearch
