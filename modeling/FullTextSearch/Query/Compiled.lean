/-
# `FullTextSearch.Query.Compiled` — search strings and compiled queries in one type of text.

Builders accept what a person typed and what was compiled before alike.  A compiled query is its
`tsquery` text behind a marker; the marker is local to this library and is taken off before text
reaches the database.  Marked text is never read as a search string again.
-/
import FullTextSearch.Query.Render
import FullTextSearch.Token.Scan

namespace FullTextSearch.Query

/-- The marker in front of compiled text. -/
def marker : Text := ['p', 'g', ':']

/-- Whether a text carries the marker. -/
def isCompiled (query : Text) : Bool := marker.isPrefixOf query

/-- The text without its marker, if it carries one. -/
def stripMarker (query : Text) : Text :=
  if isCompiled query then query.drop marker.length else query

/-- The compiled form of a token list. -/
def ofTokens (tokens : List Token) : Text := marker ++ render tokens

/-- The compiled form of a search string; a compiled one is kept as it is. -/
def compile (query : Text) : Except Fault Text :=
  if isCompiled query then .ok query else (Token.tokenize query).map ofTokens

/-- The `tsquery` text of a search string or a compiled query, without the marker. -/
def normalize (query : Text) : Except Fault Text := (compile query).map stripMarker

/-! ## Small lemmas -/

@[simp] theorem isCompiled_marker_append (t : Text) : isCompiled (marker ++ t) = true := by
  simp [isCompiled, marker]

@[simp] theorem stripMarker_marker_append (t : Text) : stripMarker (marker ++ t) = t := by
  simp [stripMarker]

/-- The normalized text is the compiled form without its marker. -/
theorem normalize_of_compile {query compiled : Text} (h : compile query = .ok compiled) :
    normalize query = .ok (stripMarker compiled) := by
  rw [normalize, h]
  rfl

/-- Compiling twice is compiling once. -/
theorem compile_compile {query compiled : Text} (h : compile query = .ok compiled) :
    compile compiled = .ok compiled := by
  unfold compile at h
  split at h
  · next hc => cases h; simp [compile, hc]
  · cases ht : Token.tokenize query with
    | error e => simp [ht, Except.map] at h
    | ok tokens =>
      simp only [ht, Except.map] at h
      cases h
      simp [compile, ofTokens]

end FullTextSearch.Query
