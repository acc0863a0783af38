/-
# `FullTextSearch.Proofs.LiteralScan` — string literals as a database reads them.

Outside of string literals a single quote opens one; inside, a doubled quote stands for one quote and
a single one closes the literal; every other code point stands for itself.  Whether a quote closes a
literal shows only at the next code point, so the reader has a place of its own behind a quote.

The statements here: a literal written by this library is read back as one literal of its value
(`parts_literal_append`), provided that no quote follows it directly, and a text that does not end
in a quote leaves the reader outside of literals if it can be read on its own at all
(`readAll_of_parts`).  Together they give the reading of one literal set between given texts
(`parts_intercalate`): the literal is read as itself at each of its places, and the texts are read
as they are read on their own.
-/
import FullTextSearch.Sql.Predicate

namespace FullTextSearch.Sql

/-! ## Reading -/

/-- A part of a text as the database reads it. -/
inductive Part where
  /-- A code point outside of string literals. -/
  | plain (c : Char)
  /-- A string literal, by its value. -/
  | literal (value : Text)
deriving DecidableEq, Repr

/-- Where the reader stands. -/
inductive Place where
  | outside
  /-- Inside a literal that holds `value` so far. -/
  | inside (value : Text)
  /-- Behind a quote inside a literal: its end, or the first half of a doubled quote. -/
  | behindQuote (value : Text)
deriving DecidableEq, Repr

/-- One code point: the parts that it completes and the place that it leaves. -/
def readChar : Place → Char → List Part × Place
  | .outside, c => if c = '\'' then ([], .inside []) else ([.plain c], .outside)
  | .inside value, c =>
    if c = '\'' then ([], .behindQuote value) else ([], .inside (value ++ [c]))
  | .behindQuote value, c =>
    if c = '\'' then ([], .inside (value ++ [c])) else ([.literal value, .plain c], .outside)

/-- The parts that a text completes from a place, and the place in which it ends. -/
def readAll (place : Place) : Text → List Part × Place
  | [] => ([], place)
  | c :: rest =>
    let (done, next) := readChar place c
    let (more, last) := readAll next rest
    (done ++ more, last)

/-- What the end of the text completes.  Only an open literal cannot end there. -/
def close : Place → Option (List Part)
  | .outside => some []
  | .inside _ => none
  | .behindQuote value => some [.literal value]

/-- The parts of a text from a place, if it does not end inside a literal. -/
def partsFrom (place : Place) (t : Text) : Option (List Part) :=
  (close (readAll place t).2).map ((readAll place t).1 ++ ·)

/-- The parts of a text. -/
def parts (t : Text) : Option (List Part) := partsFrom .outside t

/-! ## Runs in parts -/

theorem readAll_append (place : Place) (s t : Text) :
    readAll place (s ++ t) =
      ((readAll place s).1 ++ (readAll (readAll place s).2 t).1,
        (readAll (readAll place s).2 t).2) := by
  induction s generalizing place with
  | nil => simp [readAll]
  | cons c s ih => simp [readAll, ih]

theorem partsFrom_append (place : Place) (s t : Text) :
    partsFrom place (s ++ t) =
      (partsFrom (readAll place s).2 t).map ((readAll place s).1 ++ ·) := by
  rw [partsFrom, partsFrom, readAll_append, Option.map_map]
  simp [Function.comp_def]

/-- A run takes its first code point, then goes on from where that leads. -/
theorem partsFrom_cons {place next : Place} {c : Char} {done : List Part}
    (h : readChar place c = (done, next)) (t : Text) :
    partsFrom place (c :: t) = (partsFrom next t).map (done ++ ·) := by
  have hread : readAll place [c] = (done, next) := by simp [readAll, h]
  have happend := partsFrom_append place [c] t
  rw [hread] at happend
  exact happend

/-- Outside of literals every other code point than a quote stands for itself. -/
theorem parts_cons {c : Char} (h : c ≠ '\'') (t : Text) :
    parts (c :: t) = (parts t).map (.plain c :: ·) := by
  have hread : readChar .outside c = ([.plain c], .outside) := if_neg h
  exact partsFrom_cons hread t

/-! ## Written literals -/

theorem readAll_doubleQuotes (value t : Text) :
    readAll (.inside value) (doubleQuotes t) = ([], .inside (value ++ t)) := by
  induction t generalizing value with
  | nil => simp [doubleQuotes, readAll]
  | cons c t ih =>
      by_cases hc : c = '\''
      · -- the quote was written twice: the reader goes through the place behind a quote
        simp [doubleQuotes, hc, readAll, readChar, ih]
      · simp [doubleQuotes, hc, readAll, readChar, ih]

/-- A written literal is read up to its closing quote, and nothing of it is outside. -/
theorem readAll_literal (t : Text) : readAll .outside (literal t) = ([], .behindQuote t) := by
  have hopen : readAll .outside ['\''] = ([], .inside []) := rfl
  rw [literal, readAll_append, readAll_append, hopen, readAll_doubleQuotes, List.nil_append]
  rfl

/-- Behind a quote, a text that does not start with another one ends the literal. -/
theorem partsFrom_behindQuote (value : Text) {t : Text} (h : ∀ c ∈ t.head?, c ≠ '\'') :
    partsFrom (.behindQuote value) t = (parts t).map (.literal value :: ·) := by
  cases t with
  | nil => rfl
  | cons c t =>
      have hc : c ≠ '\'' := h c rfl
      have hread : readChar (.behindQuote value) c = ([.literal value, .plain c], .outside) :=
        if_neg hc
      rw [partsFrom_cons hread, parts_cons hc, Option.map_map]
      rfl

/-- **A written literal is one literal of its value,** whatever follows it but a quote. -/
theorem parts_literal_append (value : Text) {t : Text} (h : ∀ c ∈ t.head?, c ≠ '\'') :
    parts (literal value ++ t) = (parts t).map (.literal value :: ·) := by
  rw [parts, partsFrom_append, readAll_literal, partsFrom_behindQuote value h, Option.map_map]
  rfl

/-! ## Texts that end outside of literals -/

/-- No code point but a quote leads behind a quote. -/
theorem readChar_ne_behindQuote {c : Char} (h : c ≠ '\'') (place : Place) (value : Text) :
    (readChar place c).2 ≠ .behindQuote value := by
  cases place <;> simp [readChar, h]

/-- A text that can be read and does not end in a quote leaves the reader outside of literals. -/
theorem readAll_of_parts {t : Text} {c : Char} {found : List Part} (hc : c ≠ '\'')
    (h : parts (t ++ [c]) = some found) : readAll .outside (t ++ [c]) = (found, .outside) := by
  rw [parts, partsFrom] at h
  have hplace : (readAll .outside (t ++ [c])).2 = (readChar (readAll .outside t).2 c).2 := by
    rw [readAll_append]
    rfl
  cases hlast : (readAll .outside (t ++ [c])).2 with
  | outside =>
      rw [hlast] at h
      simp only [close, Option.map_some, List.append_nil, Option.some.injEq] at h
      exact Prod.ext h hlast
  | inside value =>
      rw [hlast] at h
      cases h
  | behindQuote value =>
      -- only a quote leads there, and the last code point is none
      rw [hplace] at hlast
      exact absurd hlast (readChar_ne_behindQuote hc _ value)

/-! ## Texts around literals -/

/-- A literal may start behind the text: it ends in another code point than a quote. -/
def EndsPlain (t : Text) : Prop := ∃ c ∈ t.getLast?, c ≠ '\''

/-- A literal may end in front of the text: it starts with another code point than a quote. -/
def StartsPlain (t : Text) : Prop := ∃ c ∈ t.head?, c ≠ '\''

/-- Texts between which literals may stand. -/
def Fenced : List Text → Prop
  | before :: behind :: rest => EndsPlain before ∧ StartsPlain behind ∧ Fenced (behind :: rest)
  | _ => True

theorem EndsPlain.append_left {t : Text} (h : EndsPlain t) (s : Text) : EndsPlain (s ++ t) := by
  obtain ⟨c, hlast, hc⟩ := h
  refine ⟨c, ?_, hc⟩
  rw [List.getLast?_append, Option.mem_def.mp hlast]
  rfl

theorem append_intercalate_cons {α : Type} (s x : List α) (separator : List α)
    (rest : List (List α)) :
    s ++ List.intercalate separator (x :: rest) =
      List.intercalate separator ((s ++ x) :: rest) := by
  cases rest with
  | nil => rw [List.intercalate_singleton, List.intercalate_singleton]
  | cons y rest =>
      rw [List.intercalate_cons_cons, List.intercalate_cons_cons, List.append_assoc,
        List.append_assoc, List.append_assoc]

theorem StartsPlain.intercalate {t : Text} (h : StartsPlain t) (separator : Text)
    (rest : List Text) : ∀ c ∈ (List.intercalate separator (t :: rest)).head?, c ≠ '\'' := by
  obtain ⟨c, hhead, hc⟩ := h
  obtain ⟨t, rfl⟩ := List.head?_eq_some_iff.mp hhead
  intro d hd
  rw [List.intercalate_cons_cons_left] at hd
  obtain rfl : c = d := by simpa using hd
  exact hc

/-- A text behind which a literal may start, then the literal, then a text in front of which it may
end, are read one by one. -/
theorem parts_append_literal_append (value : Text) {s t : Text} {found : List Part}
    (hs : EndsPlain s) (hfound : parts s = some found) (ht : ∀ c ∈ t.head?, c ≠ '\'') :
    parts (s ++ literal value ++ t) =
      (parts t).map (found ++ [.literal value] ++ ·) := by
  obtain ⟨c, hlast, hc⟩ := hs
  obtain ⟨s, rfl⟩ := List.getLast?_eq_some_iff.mp hlast
  have hread := readAll_of_parts hc hfound
  have hbehind : partsFrom .outside (literal value ++ t) = (parts t).map (.literal value :: ·) :=
    parts_literal_append value ht
  rw [List.append_assoc, parts, partsFrom_append, hread, hbehind, Option.map_map]
  simp [Function.comp_def]

/-- **A literal between texts is one literal of its value at every place,** and the texts are read
as they are read on their own, so that nothing read outside of the places depends on the value. -/
theorem parts_intercalate (value : Text) {texts : List Text} {found : List (List Part)}
    (h : Fenced texts) (hfound : texts.mapM parts = some found) :
    parts (List.intercalate (literal value) texts) =
      some (List.intercalate [.literal value] found) := by
  induction texts generalizing found with
  | nil =>
      obtain rfl : [] = found := by simpa using hfound
      rfl
  | cons before rest ih =>
      rw [List.mapM_cons] at hfound
      obtain ⟨first, hfirst, hfound⟩ := Option.bind_eq_some_iff.mp hfound
      obtain ⟨more, hmore, hfound⟩ := Option.bind_eq_some_iff.mp hfound
      obtain rfl : first :: more = found := by simpa using hfound
      cases rest with
      | nil =>
          obtain rfl : [] = more := by simpa using hmore
          rw [List.intercalate_singleton, List.intercalate_singleton, hfirst]
      | cons behind rest =>
          obtain ⟨hends, hstarts, hfenced⟩ := h
          -- the rest has a first part list of its own, so the separator stands in front of it
          obtain ⟨next, others, rfl⟩ : ∃ next others, more = next :: others := by
            rw [List.mapM_cons] at hmore
            obtain ⟨next, -, hmore⟩ := Option.bind_eq_some_iff.mp hmore
            obtain ⟨others, -, hmore⟩ := Option.bind_eq_some_iff.mp hmore
            exact ⟨next, others, by simpa using hmore.symm⟩
          rw [List.intercalate_cons_cons, List.intercalate_cons_cons,
            parts_append_literal_append value hends hfirst (hstarts.intercalate _ rest),
            ih hfenced hmore, Option.map_some]

end FullTextSearch.Sql
