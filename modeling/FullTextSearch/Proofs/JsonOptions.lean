/-
# `FullTextSearch.Proofs.JsonOptions` — rank options as JSON text.

A JSON text of a mapping, as text or as octets, means as rank options what the mapping means: the
options, the warnings and every fragment made with them are the same (`Interchangeable`).  This holds
of all texts of the mapping, however its strings are escaped and wherever blanks stand.

Decoding is left to the validation.  All that is asked of it is that it decodes JSON strictly
(`Validation.DecodesJson`), down to some nesting of containers, for which every decoder has a limit of
its own.  The main statement is `interchangeable_json`, and `Validation.standard_decodesJson` says
that the reader of `Value.Json` is such a decoder.

Everything that is made with rank options sees them through `Rank.ofValue` only
(`interchangeable_of_ofValue`).
-/
import FullTextSearch.Proofs.FieldLocality
import FullTextSearch.Proofs.JsonReading
import FullTextSearch.Proofs.JsonWriting
import FullTextSearch.Search.Assembly
import FullTextSearch.Value.Standard

namespace FullTextSearch

/-- The octets of a text in UTF-8. -/
def Text.utf8 (t : Text) : List UInt8 := t.flatMap String.utf8EncodeChar

/-- The octets of a text spell it: they are those of a string, and a string is valid UTF-8. -/
theorem Text.ofUtf8?_utf8 (t : Text) : Text.ofUtf8? t.utf8 = some t := by
  have hoctets : t.utf8.toByteArray = (String.ofList t).toByteArray :=
    String.toByteArray_ofList.symm
  rw [Text.ofUtf8?, hoctets, String.fromUTF8?, dif_pos (String.ofList t).isValidUTF8]
  show some (String.ofList t).toList = some t
  rw [String.toList_ofList]

/-! ## Strict decoding -/

/-- **Strict decoding of JSON**: whichever text of a value is given, as text or as octets, the value
comes out, as long as its containers are nested at most so deep. -/
structure Validation.DecodesJson (lib : Validation) (nesting : Nat) : Prop where
  text : ∀ v t, Json.IsTextOf nesting v t → lib.decode? t = some v
  octets : ∀ v t, Json.IsTextOf nesting v t → lib.decodeOctets? t.utf8 = some v

/-- The standard validation decodes JSON as deep as its reader follows. -/
theorem Validation.standard_decodesJson : Validation.standard.DecodesJson Json.maxNesting where
  text _ _ h := Json.read?_of_isTextOf h
  octets v t h := by
    show (Text.ofUtf8? t.utf8).bind Json.read? = some v
    rw [Text.ofUtf8?_utf8]
    exact Json.read?_of_isTextOf h

variable {lib : Validation}

/-- Options that differ in their rank options at most are read alike where those are. -/
theorem Search.ofEntries_congr {d d' : List (Value × Value)} (h : AgreesBesideRank d d')
    (hrank : Rank.ofValue lib (givenRank d) = Rank.ofValue lib (givenRank d')) :
    ofEntries lib d = ofEntries lib d' := by
  have hfields : ∀ rank, withRank? lib rank d = withRank? lib rank d' := by
    intro rank
    rw [withRank?, withRank?, h _ (by decide), h _ (by decide), h _ (by decide), h _ (by decide)]
  unfold givenRank at hrank
  rw [ofEntries, ofEntries, hrank]
  simp only [hfields]

namespace Rank

/-! ## Values that mean the same -/

/-- **Two values that mean the same as rank options**: they are read with the same answer and the same
warnings, or fail alike, and so does every rank expression, every ordering and every search that is
given either of them. -/
structure Interchangeable (lib : Validation) (v v' : Value) : Prop where
  options : ofValue lib v = ofValue lib v'
  expression : ∀ settings tsv query,
    Sql.rankExpression lib settings tsv query v = Sql.rankExpression lib settings tsv query v'
  ordering : ∀ settings order query,
    Sql.ordering lib settings order v query = Sql.ordering lib settings order v' query
  search : ∀ settings document tsv query d d', Search.AgreesBesideRank d d' →
    Value.field? "rank".toList d = some v → Value.field? "rank".toList d' = some v' →
    Search.statement lib settings document tsv query (.mapping d) =
      Search.statement lib settings document tsv query (.mapping d')

/-- Rank options are seen through what is read from them only. -/
theorem interchangeable_of_ofValue {v v' : Value} (h : ofValue lib v = ofValue lib v') :
    Interchangeable lib v v' := by
  refine ⟨h, ?_, ?_, ?_⟩
  · intro settings tsv query
    rw [Sql.rankExpression, Sql.rankExpression, h]
  · intro settings order query
    have hscore : Sql.score lib settings v = Sql.score lib settings v' := by
      funext compiled
      rw [Sql.score, Sql.score, h]
    rw [Sql.ordering, Sql.ordering, hscore]
  · intro settings document tsv query d d' hagrees hrank hrank'
    have hgiven : ofValue lib (Search.givenRank d) = ofValue lib (Search.givenRank d') := by
      rw [Search.givenRank, Search.givenRank, hrank, hrank']
      exact h
    have hoptions : Search.ofValue lib (.mapping d) = Search.ofValue lib (.mapping d') :=
      Search.ofEntries_congr hagrees hgiven
    rw [Search.statement, Search.statement, hoptions]

/-! ## JSON text -/

/-- **A JSON text of a mapping means what the mapping means**, wherever JSON is decoded strictly.
Every encodable mapping has a text, and each of its texts, given as text or as octets, can take its
place as rank options. -/
theorem interchangeable_json {nesting : Nat} {d : List (Value × Value)}
    (decodes : lib.DecodesJson nesting) (encodable : Json.Encodable nesting (.mapping d)) :
    Json.IsTextOf nesting (.mapping d) (Json.write (.mapping d)) ∧
      ∀ t, Json.IsTextOf nesting (.mapping d) t →
        Interchangeable lib (.text t) (.mapping d) ∧
          Interchangeable lib (.octets t.utf8) (.mapping d) := by
  refine ⟨Json.isTextOf_write encodable, ?_⟩
  intro t ht
  refine ⟨interchangeable_of_ofValue ?_, interchangeable_of_ofValue ?_⟩
  · show ofJson lib (lib.decode? t) = ofEntries lib d
    rw [decodes.text _ t ht]
    rfl
  · show ofJson lib (lib.decodeOctets? t.utf8) = ofEntries lib d
    rw [decodes.octets _ t ht]
    rfl

/-- A function under both of its names, weights of which two stand for one label and one for none, and
a key that no field has; the text escapes a quote, a line break and a code point that takes a pair of
surrogates. -/
theorem interchangeable_json_escaped :
    let weights : List (Text × Value) :=
      [("a".toList, .bool true), ("A".toList, .int (-2)), ("z".toList, .null)]
    let d : List (Value × Value) := [("function".toList, .text "ts_rank".toList),
      ("_f".toList, .text "ts_rank_cd".toList), ("_w".toList, .mapping (weights.map Json.underText)),
      ("\"😀\n".toList, .list [.null, .list []])].map Json.underText
    let t : Text := ("\x7b\"function\": \"ts_rank\", \"_f\": \"ts_rank_cd\", " ++
      "\"_w\": \x7b\"a\": true, \"A\": -2, \"z\": null\x7d, " ++
      "\"\\\"\\ud83d\\ude00\\n\": [null, []]\x7d").toList
    let lib := Validation.standard
    ofValue lib (.mapping d) =
        .answer { function := .coverDensity, weights := some (.ofPairs [(.a, .zero)]) }
          [.unknownWeightLabel] ∧
      lib.DecodesJson Json.maxNesting ∧ Json.Encodable Json.maxNesting (.mapping d) ∧
      Json.IsTextOf Json.maxNesting (.mapping d) t ∧
      Interchangeable lib (.text t) (.mapping d) ∧
      Interchangeable lib (.octets t.utf8) (.mapping d) := by
  intro weights d t lib
  have hread : ofValue lib (.mapping d) =
      .answer { function := .coverDensity, weights := some (.ofPairs [(.a, .zero)]) }
        [.unknownWeightLabel] := by
    decide +kernel
  have hwrite : Json.write (.mapping d) = t := by
    decide +kernel
  have hweights : Json.Encodable 199 (.mapping (weights.map Json.underText)) := by
    apply Json.Encodable.mapping (by decide +kernel)
    simp only [weights, List.forall_mem_cons, List.not_mem_nil, false_implies, implies_true,
      and_true]
    exact ⟨.bool true, .int (by decide), .null⟩
  have hlist : Json.Encodable 199 (.list [.null, .list []]) := by
    apply Json.Encodable.list
    simp only [List.forall_mem_cons, List.not_mem_nil, false_implies, implies_true, and_true]
    exact ⟨.null, .emptyList⟩
  have hencodable : Json.Encodable Json.maxNesting (.mapping d) := by
    apply Json.Encodable.mapping (by decide +kernel)
    simp only [List.forall_mem_cons, List.not_mem_nil, false_implies, implies_true, and_true]
    exact ⟨.text _, .text _, hweights, hlist⟩
  obtain ⟨htext, hsame⟩ := interchangeable_json Validation.standard_decodesJson hencodable
  rw [hwrite] at htext
  obtain ⟨hchars, hoctets⟩ := hsame t htext
  exact ⟨hread, Validation.standard_decodesJson, hencodable, htext, hchars, hoctets⟩

end Rank

end FullTextSearch
