/-
# `FullTextSearch.Proofs.WrittenValues` — which values have a text.

Writing a value fails for an integer of too many digits, and for a value of another kind that fails to
answer.  A value that holds others is written from their texts, so it has a text exactly if all that it
writes have one.

There are three results.  Parts in a row have texts exactly if each part has one
(`mapM_eq_ok_iff_forall₂`, `exists_mapM_eq_ok_iff`).  A value of this library's own kinds, all through,
fails for an integer of too many digits only (`failsUnwritable_plain`); that one is a structural
induction with one case for every kind of value.  And of a rank expression only the normalization can
be too long to write (`weightsArgument_eq_ok`, `normalizationText_eq_ok_iff`).
-/
import FullTextSearch.Rank.Expression
import Mathlib.Data.List.Forall2

namespace FullTextSearch

/-! ## Parts in a row -/

section MapM

variable {α β ε : Type} {f : α → Except ε β}

/-- The first part decides, and behind it the rest. -/
theorem mapM_cons_eq_ok_iff {a : α} {l : List α} {bs : List β} :
    (a :: l).mapM f = .ok bs ↔ ∃ b rest, f a = .ok b ∧ l.mapM f = .ok rest ∧ bs = b :: rest := by
  rw [List.mapM_cons]
  constructor
  · intro h
    cases hfirst : f a with
    | error e =>
        rw [hfirst] at h
        cases h
    | ok b =>
        rw [hfirst] at h
        cases hrest : l.mapM f with
        | error e =>
            rw [hrest] at h
            cases h
        | ok rest =>
            rw [hrest] at h
            cases h
            exact ⟨b, rest, rfl, rfl, rfl⟩
  · rintro ⟨b, rest, hfirst, hrest, rfl⟩
    rw [hfirst, hrest]
    rfl

/-- **Parts in a row are written together exactly if each is written on its own.** -/
theorem mapM_eq_ok_iff_forall₂ {l : List α} {bs : List β} :
    l.mapM f = .ok bs ↔ List.Forall₂ (fun a b => f a = .ok b) l bs := by
  induction l generalizing bs with
  | nil =>
      rw [List.mapM_nil, List.forall₂_nil_left_iff]
      constructor
      · intro h
        cases h
        rfl
      · rintro rfl
        rfl
  | cons a l ih =>
      rw [mapM_cons_eq_ok_iff, List.forall₂_cons_left_iff]
      simp only [ih]

/-- Parts that are not written fail as one of them does. -/
theorem exists_of_mapM_eq_error {l : List α} {e : ε} (h : l.mapM f = .error e) :
    ∃ a ∈ l, f a = .error e := by
  induction l with
  | nil => cases h
  | cons a l ih =>
      rw [List.mapM_cons] at h
      cases hfirst : f a with
      | error =>
          rw [hfirst] at h
          cases h
          exact ⟨a, List.mem_cons_self, hfirst⟩
      | ok b =>
          rw [hfirst] at h
          cases hrest : l.mapM f with
          | error =>
              rw [hrest] at h
              cases h
              obtain ⟨later, hlater, hfault⟩ := ih hrest
              exact ⟨later, List.mem_cons_of_mem a hlater, hfault⟩
          | ok rest =>
              rw [hrest] at h
              cases h

/-- All parts have a text together exactly if each of them has one. -/
theorem exists_mapM_eq_ok_iff {l : List α} :
    (∃ bs, l.mapM f = .ok bs) ↔ ∀ a ∈ l, ∃ b, f a = .ok b := by
  induction l with
  | nil => exact iff_of_true ⟨[], rfl⟩ (List.forall_mem_nil _)
  | cons a l ih =>
      rw [List.forall_mem_cons, ← ih]
      constructor
      · rintro ⟨bs, h⟩
        obtain ⟨b, rest, hb, hrest, -⟩ := mapM_cons_eq_ok_iff.mp h
        exact ⟨⟨b, hb⟩, rest, hrest⟩
      · rintro ⟨⟨b, hb⟩, rest, hrest⟩
        exact ⟨b :: rest, mapM_cons_eq_ok_iff.mpr ⟨b, rest, hb, hrest, rfl⟩⟩

end MapM

namespace Value

/-- Texts are their own texts. -/
theorem mapM_plain_text (pieces : List Text) :
    (pieces.map Value.text).mapM Value.plain = .ok pieces := by
  rw [mapM_eq_ok_iff_forall₂, List.forall₂_map_left_iff]
  exact List.forall₂_same.mpr fun _ _ => rfl

/-! ## Values of this library's own kinds -/

mutual

/-- **A value of this library's own kinds, all through**: no value of another kind stands inside. -/
def Own : Value → Prop
  | .list items | .tuple items => OwnItems items
  | .mapping entries => OwnEntries entries
  | .searchOptions o => OwnOptions o
  | .other _ => False
  | _ => True

/-- Items of this library's own kinds. -/
def OwnItems : List Value → Prop
  | [] => True
  | v :: rest => Own v ∧ OwnItems rest

/-- Keys and values of this library's own kinds. -/
def OwnEntries : List (Value × Value) → Prop
  | [] => True
  | (k, v) :: rest => (Own k ∧ Own v) ∧ OwnEntries rest

/-- Headline options of this library's own kinds. -/
def OwnNamed : List (Text × Value) → Prop
  | [] => True
  | (_, v) :: rest => Own v ∧ OwnNamed rest

/-- Search options of this library's own kinds. -/
def OwnOptions : SearchOptions → Prop
  | ⟨_, _, _, none, _⟩ => True
  | ⟨_, _, _, some entries, _⟩ => OwnNamed entries

end

/-- Every entry of a mapping is of this library's own kinds. -/
theorem own_of_mem {entries : List (Value × Value)} (h : OwnEntries entries)
    {entry : Value × Value} (hentry : entry ∈ entries) : Own entry.1 ∧ Own entry.2 := by
  induction entries with
  | nil => cases hentry
  | cons first rest ih =>
      obtain ⟨hfirst, hrest⟩ := h
      rcases List.mem_cons.mp hentry with rfl | hmem
      · exact hfirst
      · exact ih hrest hmem

/-- A field of such a mapping is of this library's own kinds. -/
theorem own_of_field {name : Text} {entries : List (Value × Value)} (h : OwnEntries entries)
    {v : Value} (hv : field? name entries = some v) : Own v := by
  obtain ⟨entry, hfound, rfl⟩ := Option.map_eq_some_iff.mp hv
  exact (own_of_mem h (List.mem_of_find?_eq_some hfound)).2

/-! ## What cannot be written -/

/-- A step that fails for an integer of too many digits only. -/
def FailsUnwritable {α : Type} (x : Except Fault α) : Prop :=
  ∀ fault, x = .error fault → fault = .unwritableNumber

section Steps

variable {α β : Type}

/-- A step that succeeds does not fail. -/
theorem failsUnwritable_ok (a : α) : FailsUnwritable (.ok a : Except Fault α) := by
  intro fault h
  cases h

/-- Two such steps, one behind the other, are such a step. -/
theorem FailsUnwritable.bind {x : Except Fault α} {f : α → Except Fault β}
    (hx : FailsUnwritable x) (hf : ∀ a, FailsUnwritable (f a)) : FailsUnwritable (x >>= f) := by
  intro fault h
  cases x with
  | ok a => exact hf a fault h
  | error =>
      cases h
      exact hx fault rfl

/-- What is made of such a step is such a step. -/
theorem FailsUnwritable.map {x : Except Fault α} (g : α → β) (hx : FailsUnwritable x) :
    FailsUnwritable (x.map g) := by
  intro fault h
  cases x with
  | ok a => cases h
  | error =>
      cases h
      exact hx fault rfl

/-- An integer fails so. -/
theorem failsUnwritable_displayInteger (n : Int) : FailsUnwritable (displayInteger n) := by
  intro fault h
  rw [displayInteger] at h
  split at h
  · cases h
  · cases h
    rfl

/-- Of the fields of rank options only the normalization may fail. -/
theorem failsUnwritable_rankFields (o : RankOptions) : FailsUnwritable (rankFields o) := by
  rw [rankFields]
  refine FailsUnwritable.bind ?_ fun _ => failsUnwritable_ok _
  cases o.normalization with
  | none => exact failsUnwritable_ok _
  | some n => exact failsUnwritable_displayInteger n

end Steps

mutual

/-- **A value of this library's own kinds is not written only for an integer of too many digits.**
One case for every kind of value; a value that holds others fails as its parts do. -/
theorem failsUnwritable_display : ∀ v : Value, Own v → FailsUnwritable (display v)
  | .int n, _ => by
      rw [display]
      exact failsUnwritable_displayInteger n
  | .list items, h => by
      rw [display]
      exact (failsUnwritable_displayItems items h).map _
  | .tuple items, h => by
      rw [display]
      exact (failsUnwritable_displayItems items h).map _
  | .mapping entries, h => by
      rw [display]
      exact (failsUnwritable_displayEntries entries h).map _
  | .rankOptions o, _ => by
      rw [display]
      exact (failsUnwritable_rankFields o).map _
  | .searchOptions o, h => by
      rw [display]
      exact (failsUnwritable_searchFields o h).map _
  | .other _, h => h.elim
  | .null, _ | .bool _, _ | .float _, _ | .text _, _ | .octets _, _ | .function _, _ => by
      rw [display]
      exact failsUnwritable_ok _

/-- Items fail as one of them does. -/
theorem failsUnwritable_displayItems :
    ∀ items : List Value, OwnItems items → FailsUnwritable (displayItems items)
  | [], _ => by
      rw [displayItems]
      exact failsUnwritable_ok _
  | v :: rest, h => by
      rw [displayItems]
      obtain ⟨hv, hrest⟩ := h
      exact (failsUnwritable_display v hv).bind fun _ =>
        (failsUnwritable_displayItems rest hrest).bind fun _ => failsUnwritable_ok _

/-- Entries fail as a key or a value of theirs does. -/
theorem failsUnwritable_displayEntries :
    ∀ entries : List (Value × Value), OwnEntries entries → FailsUnwritable (displayEntries entries)
  | [], _ => by
      rw [displayEntries]
      exact failsUnwritable_ok _
  | (k, v) :: rest, h => by
      rw [displayEntries]
      obtain ⟨⟨hk, hv⟩, hrest⟩ := h
      exact (failsUnwritable_display k hk).bind fun _ =>
        (failsUnwritable_display v hv).bind fun _ =>
          (failsUnwritable_displayEntries rest hrest).bind fun _ => failsUnwritable_ok _

/-- Named values fail as one of the values does: their names are texts. -/
theorem failsUnwritable_displayNamed :
    ∀ entries : List (Text × Value), OwnNamed entries → FailsUnwritable (displayNamed entries)
  | [], _ => by
      rw [displayNamed]
      exact failsUnwritable_ok _
  | (_, v) :: rest, h => by
      rw [displayNamed]
      obtain ⟨hv, hrest⟩ := h
      exact (failsUnwritable_display v hv).bind fun _ =>
        (failsUnwritable_displayNamed rest hrest).bind fun _ => failsUnwritable_ok _

/-- Of the fields of search options those that hold values may fail, and the rank options. -/
theorem failsUnwritable_searchFields :
    ∀ o : SearchOptions, OwnOptions o → FailsUnwritable (searchFields o)
  | ⟨_, rank, _, none, _⟩, _ => by
      rw [searchFields]
      exact ((failsUnwritable_rankFields rank).map _).bind fun _ => failsUnwritable_ok _
  | ⟨_, rank, _, some entries, _⟩, h => by
      rw [searchFields]
      exact ((failsUnwritable_rankFields rank).map _).bind fun _ =>
        (failsUnwritable_displayNamed entries h).bind fun _ => failsUnwritable_ok _

end

/-- On its own such a value fails as it does inside a larger one. -/
theorem failsUnwritable_plain {v : Value} (h : Own v) : FailsUnwritable v.plain := by
  cases v with
  | rankOptions o => exact (failsUnwritable_rankFields o).map _
  | searchOptions o => exact (failsUnwritable_searchFields o h).map _
  | other o => exact h.elim
  | text | function => exact failsUnwritable_ok _
  | null | bool | int | float | octets | list | tuple | mapping =>
      exact failsUnwritable_display _ h

end Value

/-! ## Weight arrays -/

namespace Rank

/-- The text of a weight in an array: zero for a label that is not listed. -/
def arrayText : Option Binary64 → Text
  | some w => Value.displayNumber w
  | none => ['0']

/-- The four texts of an array. -/
def arrayTexts (weights : Weights) : List Text :=
  WeightLabel.arrayOrder.map fun label => arrayText (weights.get? label)

/-- The array of a call with the comma after it. -/
def arrayArgument (options : RankOptions) : Text :=
  options.weights.elim [] fun weights =>
    "array[".toList ++ List.intercalate ", ".toList (arrayTexts weights) ++ "], ".toList

/-- **An array is always written**: what stands in it is a number, or a zero. -/
theorem weightsArgument_eq_ok (options : RankOptions) :
    weightsArgument options = .ok (arrayArgument options) := by
  rw [weightsArgument, RankOptions.weightArray, arrayArgument]
  cases options.weights with
  | none => rfl
  | some weights =>
      have hitem : ∀ label : WeightLabel,
          (weights.arrayItem label).plain = .ok (arrayText (weights.get? label)) := by
        intro label
        rw [Weights.arrayItem]
        cases weights.get? label <;> rfl
      have htexts : (WeightLabel.arrayOrder.map weights.arrayItem).mapM Value.plain =
          .ok (arrayTexts weights) := by
        rw [mapM_eq_ok_iff_forall₂, List.forall₂_map_left_iff]
        exact List.forall₂_map_right_iff.mpr (List.forall₂_same.mpr fun label _ => hitem label)
      rw [Option.map_some]
      show (List.mapM Value.plain _).map _ = _
      rw [htexts]
      rfl

/-- The normalization of a call is written exactly if it has few digits enough. -/
theorem normalizationText_eq_ok_iff {settings : Settings} {options : RankOptions} {t : Text} :
    normalizationText settings options = .ok t ↔
      Numeral.Writable (options.normalization.getD settings.defaultNormalization) ∧
        t = Numeral.ofInt (options.normalization.getD settings.defaultNormalization) :=
  Value.displayInteger_eq_ok_iff

end Rank

end FullTextSearch
