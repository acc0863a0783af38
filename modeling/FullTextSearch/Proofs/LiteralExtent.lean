/-
# `FullTextSearch.Proofs.LiteralExtent` — where a string literal ends.

One literal is read here from its opening quote, with a look at the code point behind each quote: a
doubled quote stands for one quote, any other quote closes the literal, and everything else stands
for itself.  What is read is the value of the literal and the text behind it.  The reader of whole
statements finds the same literals (`parts_quote`), although it takes one code point at a time.

The main statement is `literal_read_exactly`: a written literal is read up to its own closing quote
and yields its value exactly if no quote follows it, whatever runs of quotes the value holds.  The
options of a headline are one such literal where all their keys and values have texts (`Writes`), and
in a headline a parenthesis follows it.
-/
import FullTextSearch.Proofs.LiteralScan
import FullTextSearch.Proofs.WrittenValues
import FullTextSearch.Sql.Headline

namespace FullTextSearch.Sql

/-! ## Reading one literal -/

/-- The value of a literal and the text behind it, read from behind its opening quote.  A literal
that is not closed has neither. -/
def readInside? : Text → Option (Text × Text)
  | [] => none
  | '\'' :: '\'' :: rest => (readInside? rest).map fun found => ('\'' :: found.1, found.2)
  | '\'' :: rest => some ([], rest)
  | c :: rest => (readInside? rest).map fun found => (c :: found.1, found.2)

/-- The value of the literal that a text starts with, and the text behind it. -/
def readLiteral? : Text → Option (Text × Text)
  | '\'' :: rest => readInside? rest
  | _ => none

theorem readInside?_quotes (rest : Text) :
    readInside? ('\'' :: '\'' :: rest) =
      (readInside? rest).map fun found => ('\'' :: found.1, found.2) := by
  rw [readInside?]

theorem readInside?_of_ne {c : Char} (hc : c ≠ '\'') (rest : Text) :
    readInside? (c :: rest) = (readInside? rest).map fun found => (c :: found.1, found.2) := by
  rw [readInside?]
  · exact fun _ h => absurd h hc
  · exact hc

/-- A quote that no other one follows closes the literal. -/
theorem readInside?_closing {rest : Text} (h : rest.head? ≠ some '\'') :
    readInside? ('\'' :: rest) = some ([], rest) := by
  rw [readInside?]
  rintro more rfl
  exact h rfl

/-! ## Written literals -/

/-- A text whose quotes are doubled is read as itself, whatever follows it. -/
theorem readInside?_doubleQuotes_append (t rest : Text) :
    readInside? (doubleQuotes t ++ rest) =
      (readInside? rest).map fun found => (t ++ found.1, found.2) := by
  induction t with
  | nil => simp [doubleQuotes]
  | cons c t ih =>
      by_cases hc : c = '\''
      · subst hc
        have hdouble : doubleQuotes ('\'' :: t) = '\'' :: '\'' :: doubleQuotes t := rfl
        rw [hdouble, List.cons_append, List.cons_append, readInside?_quotes, ih, Option.map_map]
        rfl
      · have hsingle : doubleQuotes (c :: t) = c :: doubleQuotes t := if_neg hc
        rw [hsingle, List.cons_append, readInside?_of_ne hc, ih, Option.map_map]
        rfl

theorem readLiteral?_literal_append (value rest : Text) :
    readLiteral? (literal value ++ rest) =
      (readInside? ('\'' :: rest)).map fun found => (value ++ found.1, found.2) := by
  have hopen : literal value ++ rest = '\'' :: (doubleQuotes value ++ '\'' :: rest) := by
    simp [literal]
  rw [hopen, readLiteral?, readInside?_doubleQuotes_append]

/-- A quote behind a literal would make one longer value of the two. -/
theorem readLiteral?_literal_append_quote_ne (value more rest : Text) :
    readLiteral? (literal value ++ '\'' :: more) ≠ some (value, rest) := by
  intro h
  rw [readLiteral?_literal_append, readInside?_quotes, Option.map_map] at h
  obtain ⟨found, -, hfound⟩ := Option.map_eq_some_iff.mp h
  have hvalue : value ++ '\'' :: found.1 = value := congrArg Prod.fst hfound
  have hlength := congrArg List.length hvalue
  rw [List.length_append, List.length_cons] at hlength
  omega

/-- **A written literal ends at its closing quote,** exactly if no quote follows it. -/
theorem readLiteral?_literal_append_iff (value rest : Text) :
    readLiteral? (literal value ++ rest) = some (value, rest) ↔ rest.head? ≠ some '\'' := by
  constructor
  · intro h hquote
    obtain ⟨more, rfl⟩ := List.head?_eq_some_iff.mp hquote
    exact readLiteral?_literal_append_quote_ne value more _ h
  · intro h
    rw [readLiteral?_literal_append, readInside?_closing h, Option.map_some, List.append_nil]

/-- Runs of quotes at both ends of a value, and next to what follows it. -/
example : readLiteral? (literal "''a'''".toList ++ ", 'b'".toList) =
    some ("''a'''".toList, ", 'b'".toList) := rfl

/-! ## Literals in a statement -/

/-- A code point that completes nothing only moves the reader. -/
theorem partsFrom_cons_of_silent {place next : Place} {c : Char}
    (h : readChar place c = ([], next)) (t : Text) :
    partsFrom place (c :: t) = partsFrom next t := by
  rw [partsFrom_cons h]
  exact congrFun Option.map_id (partsFrom next t)

/-- Behind a quote inside a literal, what follows decides what the quote was. -/
theorem partsFrom_inside_quote (value t : Text) :
    partsFrom (.inside value) ('\'' :: t) = partsFrom (.behindQuote value) t :=
  partsFrom_cons_of_silent rfl t

/-- Inside a literal the rest of it is one part, and what is behind it is read on its own. -/
theorem partsFrom_inside (value t : Text) :
    partsFrom (.inside value) t =
      (readInside? t).bind fun found =>
        (parts found.2).map (.literal (value ++ found.1) :: ·) := by
  fun_induction readInside? t generalizing value with
  | case1 => rfl
  | case2 rest ih =>
      have hdoubled : partsFrom (.behindQuote value) ('\'' :: rest) =
          partsFrom (.inside (value ++ ['\''])) rest := partsFrom_cons_of_silent rfl rest
      rw [partsFrom_inside_quote, hdoubled, ih, Option.bind_map]
      simp only [List.append_assoc, List.singleton_append]
      rfl
  | case3 rest hlone =>
      have hhead : ∀ c ∈ rest.head?, c ≠ '\'' := by
        rintro c hc rfl
        obtain ⟨more, hrest⟩ := List.head?_eq_some_iff.mp hc
        exact hlone more hrest
      rw [partsFrom_inside_quote, partsFrom_behindQuote value hhead, Option.bind_some,
        List.append_nil]
  | case4 c rest _ hc ih =>
      have hkept : readChar (.inside value) c = ([], .inside (value ++ [c])) := if_neg hc
      rw [partsFrom_cons_of_silent hkept, ih, Option.bind_map]
      simp only [List.append_assoc, List.singleton_append]
      rfl

/-- **Both readers find the same literal** at an opening quote. -/
theorem parts_quote (t : Text) :
    parts ('\'' :: t) =
      (readLiteral? ('\'' :: t)).bind fun found =>
        (parts found.2).map (.literal found.1 :: ·) := by
  have hinside : parts ('\'' :: t) = partsFrom (.inside []) t := partsFrom_cons_of_silent rfl t
  rw [hinside, partsFrom_inside]
  rfl

/-! ## The options of a headline -/

/-- A headline up to its options. -/
def headlineFront (document query : Text) (configuration : Option Text) : Except Fault Text :=
  (tsqueryCall query []).map fun call =>
    "ts_headline(".toList ++ (Text.given? configuration).elim [] (· ++ ", ".toList) ++ document ++
      ", ".toList ++ call

/-- A headline from behind its options. -/
def headlineBack (name : Option Text) : Text :=
  ") AS ".toList ++ (Text.given? name).getD "headline".toList

/-- **The texts of a mapping**: those of its keys and of its values, entry by entry. -/
def Writes (entries : List (Value × Value)) (options : HeadlineOptions) : Prop :=
  List.Forall₂ (fun entry option => entry.1.plain = .ok option.1 ∧ entry.2.plain = .ok option.2)
    entries options

/-- An entry has texts exactly if its key and its value have. -/
theorem entryTexts_eq_ok_iff {entry : Value × Value} {option : Text × Text} :
    entryTexts entry = .ok option ↔ entry.1.plain = .ok option.1 ∧ entry.2.plain = .ok option.2 := by
  obtain ⟨name, value⟩ := option
  rw [entryTexts]
  cases entry.1.plain with
  | error fault => simp [bind, Except.bind]
  | ok name' =>
      cases entry.2.plain with
      | error fault => simp [bind, Except.bind]
      | ok value' => simp [bind, Except.bind, pure, Except.pure]

/-- An entry without texts fails as its key does, or else as its value does. -/
theorem plain_of_entryTexts_eq_error {entry : Value × Value} {fault : Fault}
    (h : entryTexts entry = .error fault) :
    entry.1.plain = .error fault ∨ entry.2.plain = .error fault := by
  rw [entryTexts] at h
  cases hname : entry.1.plain with
  | error =>
      rw [hname] at h
      cases h
      exact Or.inl rfl
  | ok name =>
      cases hvalue : entry.2.plain with
      | error =>
          rw [hname, hvalue] at h
          cases h
          exact Or.inr rfl
      | ok value =>
          rw [hname, hvalue] at h
          cases h

/-- The options of a mapping are its texts. -/
theorem ofValue_mapping_eq_ok_iff {entries : List (Value × Value)} {options : HeadlineOptions} :
    HeadlineOptions.ofValue (.mapping entries) = .ok options ↔ Writes entries options := by
  rw [HeadlineOptions.ofValue, mapM_eq_ok_iff_forall₂, Writes]
  simp only [entryTexts_eq_ok_iff]

/-- The options are written before the query is looked at. -/
theorem headline_of_no_texts {options : Value} {fault : Fault}
    (h : HeadlineOptions.ofValue options = .error fault) (document query : Text)
    (name configuration : Option Text) :
    headline document query name configuration options = .error fault := by
  rw [headline, h]
  rfl

/-- A headline is its front, its options and its back. -/
theorem headline_eq_front_back {options : Value} {written : HeadlineOptions}
    (h : HeadlineOptions.ofValue options = .ok written) (document query : Text)
    (name configuration : Option Text) :
    headline document query name configuration options =
      (headlineFront document query configuration).map fun front =>
        front ++ optionsArgument written ++ headlineBack name := by
  rw [headline, headlineFront, h]
  cases tsqueryCall query [] with
  | error fault => rfl
  | ok call =>
      cases Text.given? configuration with
      | none => exact congrArg Except.ok (List.append_assoc _ _ _)
      | some first => exact congrArg Except.ok (List.append_assoc _ _ _)

/-- No quote follows the options. -/
theorem head?_headlineBack_ne (name : Option Text) : (headlineBack name).head? ≠ some '\'' := by
  have hhead : (headlineBack name).head? = some ')' := rfl
  rw [hhead]
  decide

/-- Only the empty mapping gives no options. -/
theorem optionsArgument_of_writes {entries : List (Value × Value)} {options : HeadlineOptions}
    (h : Writes entries options) :
    optionsArgument options =
      if entries.isEmpty then [] else ", ".toList ++ literal (assignments options) := by
  cases h with
  | nil => rfl
  | cons hfirst hrest => rfl

end FullTextSearch.Sql
