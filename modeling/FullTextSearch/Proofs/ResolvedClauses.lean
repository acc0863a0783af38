/-
# `FullTextSearch.Proofs.ResolvedClauses` — no directive is left in a clause.

A rank entry is a directive and no SQL: a statement can hold neither one nor a blank clause
(`Resolved`).  Entries that are kept are no rank entries, and a scored one begins with the name of a
ranking function.  The default order that stands in for a rank entry without a query is the one
source of clauses that is not looked at again, so an ordering is resolved exactly if nothing falls
back to it or all of it is resolved (`resolved_unless_replaced`).
-/
import FullTextSearch.Proofs.OrderPass

namespace FullTextSearch

/-- A code point outside all runs of capital letters is its own small letter. -/
theorem lowerChar_of_unlisted {c : Char}
    (h : ∀ run ∈ LetterTable.lowerRuns.toList, c.toNat < run.1 ∨ run.2.1 < c.toNat) :
    lowerChar c = c := by
  unfold lowerChar
  dsimp only
  split
  · next first last step distance hrun =>
      have hlisted : c.toNat < first ∨ last < c.toNat := h _ (Array.mem_of_find?_eq_some hrun).val
      have htest := Array.find?_some hrun
      simp only [Bool.and_eq_true, decide_eq_true_eq] at htest
      omega
  · rfl

namespace Sql

/-! ## Clauses that a statement can hold -/

/-- A clause that a statement can hold: it is not blank, and no rank entry is left in it. -/
structure Resolved (clause : Text) : Prop where
  notBlank : Text.isAllBlank clause = false
  notRank : isRankEntry clause = false

/-- Whether entries give way to the default order: one of them asks for a score, and there is no
text to score. -/
def FallsBack (entries : List Text) (query : Option Text) : Prop :=
  queryText query = .ok [] ∧ ∃ entry ∈ entries, isRankEntry entry = true

/-- Both ranking functions begin with a letter that `rank` does not begin with. -/
theorem resolved_of_head (rest : Text) : Resolved ('t' :: rest) where
  notBlank := rfl
  notRank := by
    have hblank : isBlank 't' = false := by decide
    have hkept : lowerChar 't' = 't' := lowerChar_of_unlisted (by decide +kernel)
    obtain ⟨word, words, hwords⟩ := Text.exists_words_cons hblank rest
    have hlowered : Text.lower ('t' :: word) = lowerChar 't' :: Text.lowerAfter ['t'] word := rfl
    rw [isRankEntry, hwords]
    refine beq_eq_false_iff_ne.mpr fun hlower => ?_
    rw [hlowered, hkept] at hlower
    exact absurd (List.cons.inj hlower).1 (by decide)

/-- A rank expression begins with the name of its function, whatever it writes behind it. -/
theorem exists_expression_eq_cons {settings : Settings} {tsv query expression : Text}
    {options : RankOptions} (h : Rank.expression settings tsv query options = .ok expression) :
    ∃ rest, expression = 't' :: rest := by
  rw [Rank.expression, Rank.weightsArgument_eq_ok] at h
  cases hcall : tsqueryCall query [] with
  | error fault =>
      rw [hcall] at h
      cases h
  | ok call =>
      cases hnormalization : Rank.normalizationText settings options with
      | error fault =>
          rw [hcall, hnormalization] at h
          cases h
      | ok normalization =>
          rw [hcall, hnormalization] at h
          obtain rfl := Except.ok.inj h
          cases options.function <;> exact ⟨_, rfl⟩

theorem exists_score_eq_cons {lib : Validation} {settings : Settings} {rank : Value}
    {compiled expression : Text} {warnings : List Warning}
    (h : score lib settings rank compiled = .answer expression warnings) :
    ∃ rest, expression = 't' :: rest := by
  obtain ⟨options, _, _, -, hexpression, -⟩ := Outcome.bind_eq_answer_iff.mp h
  exact exists_expression_eq_cons (Outcome.liftM_eq_answer_iff.mp hexpression).1

/-- What an entry becomes is resolved, unless it gave way to the default order. -/
theorem Becomes.resolved_or {settings : Settings} {value entry : Text} {score : Option Text}
    {part : List Text} (h : Becomes settings value score entry part)
    (hscore : ∀ expression ∈ score, ∃ rest, expression = 't' :: rest) {clause : Text}
    (hclause : clause ∈ part) :
    Resolved clause ∨ value = [] ∧ isRankEntry entry = true ∧ clause ∈ settings.defaultOrder := by
  cases h with
  | kept words other =>
      obtain rfl := List.mem_singleton.mp hclause
      refine Or.inl ⟨?_, ?_⟩
      · rw [← Bool.not_eq_true, ← Text.words_eq_nil_iff, words]
        exact List.cons_ne_nil _ _
      · rw [← Bool.not_eq_true, isRankEntry_of_words words]
        exact other
  | replaced words ranks empty =>
      exact Or.inr ⟨empty, (isRankEntry_of_words words).mpr ranks, hclause⟩
  | scored words ranks given scores =>
      obtain rfl := List.mem_singleton.mp hclause
      obtain ⟨rest, rfl⟩ := hscore _ scores
      exact Or.inl (resolved_of_head _)

section Orders

variable {lib : Validation} {settings : Settings} {entries : List Text} {value compiled : Text}
  {rank : Value} {o : Ordering} {given : List Warning}

/-- The rank expression of an ordering begins with the name of a ranking function. -/
theorem Orders.exists_rank_eq_cons
    (h : Orders settings entries value (score lib settings rank compiled) o given) :
    ∀ expression ∈ o.rank, ∃ rest, expression = 't' :: rest := by
  intro expression hexpression
  by_cases hscores : Scores entries value
  · obtain ⟨found, hsome, hfound⟩ := h.scored hscores
    obtain rfl : found = expression := Option.some.inj (hsome.symm.trans hexpression)
    exact exists_score_eq_cons hfound
  · rw [(h.unscored hscores).1] at hexpression
    cases hexpression

/-- Where a rank entry has no text to score, all of the default order is there. -/
theorem Orders.mem_clauses_of_default {score : Outcome Text}
    (h : Orders settings entries value score o given) (hempty : value = []) {entry : Text}
    (hentry : entry ∈ entries) (hrank : isRankEntry entry = true) {clause : Text}
    (hclause : clause ∈ settings.defaultOrder) : clause ∈ o.clauses := by
  have hnone : o.rank = none := (h.unscored fun hscores => hscores.1 hempty).1
  have hpart : entryClauses settings none entry = settings.defaultOrder := if_pos hrank
  rw [h.clauses, hnone]
  exact List.mem_flatMap.mpr ⟨entry, hentry, hpart ▸ hclause⟩

end Orders

/-- **No rank entry and no blank clause is left in an ordering**, unless a rank entry gave way to a
default order that holds one. -/
theorem resolved_unless_replaced {lib : Validation} {settings : Settings} {order rank : Value}
    {query : Option Text} {o : Ordering} {given : List Warning}
    (h : ordering lib settings order rank query = .answer o given) :
    ∃ asked, entries settings order = .ok asked ∧
      (∀ clause ∈ o.clauses, Resolved clause ∨
        FallsBack (trimmed asked) query ∧ clause ∈ settings.defaultOrder) ∧
      ((∀ clause ∈ o.clauses, Resolved clause) ↔
        (FallsBack (trimmed asked) query →
          ∀ clause ∈ settings.defaultOrder, Resolved clause)) := by
  obtain ⟨compiled, asked, hcompiled, hentries, horders⟩ := orders_of_ordering h
  have htext := queryText_of_compileGiven hcompiled
  have hclauses : ∀ clause ∈ o.clauses, Resolved clause ∨
      FallsBack (trimmed asked) query ∧ clause ∈ settings.defaultOrder := by
    intro clause hclause
    rw [horders.clauses] at hclause
    obtain ⟨entry, hentry, hpart⟩ := List.mem_flatMap.mp hclause
    have hbecomes := horders.becomes hentry (words_ne_nil_of_mem_trimmed hentry)
    rcases hbecomes.resolved_or horders.exists_rank_eq_cons hpart with
      hresolved | ⟨hempty, hrank, hdefault⟩
    · exact Or.inl hresolved
    · exact Or.inr ⟨⟨hempty ▸ htext, entry, hentry, hrank⟩, hdefault⟩
  refine ⟨asked, hentries, hclauses, ?_, ?_⟩
  · rintro hresolved ⟨hempty, entry, hentry, hrank⟩ clause hclause
    have hvalue : Query.stripMarker compiled = [] := Except.ok.inj (htext.symm.trans hempty)
    exact hresolved clause (horders.mem_clauses_of_default hvalue hentry hrank hclause)
  · intro hdefault clause hclause
    rcases hclauses clause hclause with hresolved | ⟨hfalls, hmem⟩
    · exact hresolved
    · exact hdefault hfalls clause hmem

/-- With text to score, a rank entry in the default order does no harm. -/
theorem resolved_unless_replaced_with_query :
    ∃ o given, ordering .standard { defaultOrder := ["rank".toList, " ".toList] }
        (.text " , RANK asc,title".toList) .null (some "cats".toList) = .answer o given ∧
      o.clauses = ["ts_rank(tsv, to_tsquery('cats'), 16) asc".toList, "title".toList] ∧
      ∀ clause ∈ o.clauses, Resolved clause := by
  have ho : ordering .standard { defaultOrder := ["rank".toList, " ".toList] }
      (.text " , RANK asc,title".toList) .null (some "cats".toList) =
        .answer ⟨["ts_rank(tsv, to_tsquery('cats'), 16) asc".toList, "title".toList],
          some "ts_rank(tsv, to_tsquery('cats'), 16)".toList⟩ [] := by
    decide +kernel
  obtain ⟨asked, -, -, hresolved⟩ := resolved_unless_replaced ho
  refine ⟨_, _, ho, rfl, hresolved.mpr ?_⟩
  rintro ⟨hempty, -⟩
  have htext : queryText (some "cats".toList) = .ok "cats".toList := rfl
  exact absurd (Except.ok.inj (htext.symm.trans hempty)) (by decide)

/-- Without a query, a rank entry in the default order is left as it is. -/
theorem unresolved_default_order :
    ¬ ∀ (settings : Settings) (order rank : Value) (query : Option Text) (o : Ordering)
      (given : List Warning), ordering .standard settings order rank query = .answer o given →
        ∀ clause ∈ o.clauses, Resolved clause := by
  intro h
  have ⟨ho, hrank⟩ : ordering .standard { defaultOrder := ["rank".toList, "id".toList] }
      (.text "rank".toList) .null none = .answer ⟨["rank".toList, "id".toList], none⟩ [] ∧
      isRankEntry "rank".toList = true := by
    decide +kernel
  have hresolved := (h _ _ _ _ _ _ ho "rank".toList List.mem_cons_self).notRank
  exact Bool.false_ne_true (hresolved.symm.trans hrank)

end Sql

end FullTextSearch
