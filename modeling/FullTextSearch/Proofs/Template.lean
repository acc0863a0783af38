/-
# `FullTextSearch.Proofs.Template` — fragments with places for one literal.

A template is a fragment that has yet to be given its query: text that is fixed, and calls of
`to_tsquery` that wait for a literal.  Since a literal only ever stands inside such a call, the text
in front of a place ends in another code point than a quote and the text behind it starts with a
closing parenthesis.  Templates are therefore fenced by construction (`fenced_chunks`), and so are
all fragments and statements that are put together from them.
-/
import FullTextSearch.Proofs.LiteralScan
import FullTextSearch.Sql.Predicate

namespace FullTextSearch.Sql

/-! ## Templates -/

/-- A stretch of a fragment that has yet to be given its query. -/
inductive Segment where
  /-- Text that does not depend on the query. -/
  | fixed (t : Text)
  /-- A call that reads the query under a configuration. -/
  | call (configuration : Option Text)
deriving DecidableEq, Repr

/-- A fragment that has yet to be given its query. -/
abbrev Template := List Segment

/-- A call up to the place of the literal. -/
def callOpening (configuration : Option Text) : Text :=
  "to_tsquery(".toList ++ configurationArgument configuration

/-- The text of a segment around a literal. -/
def Segment.fill (l : Text) : Segment → Text
  | .fixed t => t
  | .call configuration => callOpening configuration ++ l ++ [')']

namespace Template

/-- The text of a template around a literal. -/
def fill (l : Text) (template : Template) : Text := template.flatMap (Segment.fill l)

/-- The texts between the places of a template, those at its two ends included. -/
def chunks : Template → List Text
  | [] => [[]]
  | .fixed t :: rest => (chunks rest).modifyHead (t ++ ·)
  | .call configuration :: rest =>
    callOpening configuration :: (chunks rest).modifyHead ([')'] ++ ·)

/-! ## Filling -/

@[simp] theorem fill_nil (l : Text) : fill l [] = [] := rfl

@[simp] theorem fill_cons (l : Text) (segment : Segment) (rest : Template) :
    fill l (segment :: rest) = segment.fill l ++ fill l rest := List.flatMap_cons

@[simp] theorem fill_append (l : Text) (s t : Template) :
    fill l (s ++ t) = fill l s ++ fill l t := List.flatMap_append

theorem fill_intercalate (l : Text) (separator : Template) (items : List Template) :
    fill l (List.intercalate separator items) =
      List.intercalate (fill l separator) (items.map (fill l)) := by
  induction items with
  | nil => rfl
  | cons item rest ih =>
      cases rest with
      | nil => simp [List.intercalate_singleton]
      | cons next rest =>
          rw [List.intercalate_cons_cons, fill_append, fill_append, ih]
          simp only [List.map_cons, List.intercalate_cons_cons]

/-! ## Chunks -/

theorem chunks_ne_nil (template : Template) : chunks template ≠ [] := by
  induction template with
  | nil => simp [chunks]
  | cons segment rest ih => cases segment <;> simp [chunks, ih]

/-- There is a first chunk. -/
theorem exists_chunks_eq_cons (template : Template) :
    ∃ first more, chunks template = first :: more :=
  List.exists_cons_of_ne_nil (chunks_ne_nil template)

/-- **A filled template is its chunks with the literal between them.** -/
theorem fill_eq_intercalate (l : Text) (template : Template) :
    fill l template = List.intercalate l (chunks template) := by
  induction template with
  | nil => rfl
  | cons segment rest ih =>
      obtain ⟨first, more, hrest⟩ := exists_chunks_eq_cons rest
      rw [hrest] at ih
      cases segment with
      | fixed t =>
          rw [fill_cons, ih, chunks, hrest, List.modifyHead_cons, Segment.fill,
            append_intercalate_cons]
      | call configuration =>
          rw [fill_cons, ih, chunks, hrest, List.modifyHead_cons, Segment.fill,
            List.intercalate_cons_cons, ← append_intercalate_cons, List.append_assoc,
            List.append_assoc]

/-- A call makes a place. -/
theorem two_le_length_chunks {configuration : Option Text} {template : Template}
    (h : .call configuration ∈ template) : 2 ≤ (chunks template).length := by
  induction template with
  | nil => cases h
  | cons segment rest ih =>
      cases segment with
      | fixed t =>
          rw [chunks, List.length_modifyHead]
          exact ih (by simpa using h)
      | call configuration =>
          have hpos := List.length_pos_iff.mpr (chunks_ne_nil rest)
          rw [chunks, List.length_cons, List.length_modifyHead]
          omega

/-! ## Fences -/

/-- A call opens with a parenthesis or with the blank behind a comma. -/
theorem endsPlain_callOpening (configuration : Option Text) :
    EndsPlain (callOpening configuration) := by
  unfold callOpening configurationArgument
  cases Text.given? configuration with
  | none =>
      rw [List.append_nil]
      exact ⟨'(', by decide, by decide⟩
  | some name =>
      have hlast : (", ".toList).getLast? = some ' ' := by decide
      refine ⟨' ', ?_, by decide⟩
      rw [List.getLast?_append, List.getLast?_append, hlast]
      rfl

/-- Text in front of the first chunk changes no fence. -/
theorem fenced_modifyHead {texts : List Text} (h : Fenced texts) (s : Text) :
    Fenced (texts.modifyHead (s ++ ·)) := by
  match texts, h with
  | [], _ => exact trivial
  | [t], _ => exact trivial
  | before :: behind :: rest, ⟨hends, hrest⟩ => exact ⟨hends.append_left s, hrest⟩

/-- **Templates are fenced:** a literal may stand at all of their places. -/
theorem fenced_chunks (template : Template) : Fenced (chunks template) := by
  induction template with
  | nil => exact trivial
  | cons segment rest ih =>
      cases segment with
      | fixed t => exact fenced_modifyHead ih t
      | call configuration =>
          have hrest := fenced_modifyHead ih [')']
          obtain ⟨first, more, hchunks⟩ := exists_chunks_eq_cons rest
          rw [chunks]
          rw [hchunks, List.modifyHead_cons] at hrest ⊢
          exact ⟨endsPlain_callOpening configuration, ⟨')', rfl, by decide⟩, hrest⟩

end Template

end FullTextSearch.Sql
