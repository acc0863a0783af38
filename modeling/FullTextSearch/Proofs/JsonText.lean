/-
# `FullTextSearch.Proofs.JsonText` — the JSON texts of a value.

A value without floating point numbers has many JSON texts: blanks may stand between the parts, and a
code point inside a string may be itself or an escape.  `Spells` says what all of them look like, one
rule for each kind of value and each way in which items and members go on; its first argument bounds
the nesting of containers, of which empty ones do not count.  `IsTextOf` is the relation of a value to
its texts.

How a part of a text opens tells it from a blank and from the end of the container around it
(`opens_of_spells`); a reader that looks one code point ahead needs no more to choose its way.
-/
import FullTextSearch.Proofs.Rounding
import FullTextSearch.Value.Json

namespace FullTextSearch.Json

/-! ## Texts of a value -/

/-- Blanks between the parts of a text. -/
def IsGap (gap : Text) : Prop := ∀ c ∈ gap, isGap c = true

/-- **A code point inside a string**: itself, or an escape of one letter, of one unit of four
hexadecimal digits or of the two units of a pair of surrogates. -/
inductive SpellsChar : Char → Text → Prop
  | plain {c : Char} (visible : 0x20 ≤ c.toNat) (noQuote : c ≠ '"') (noBackslash : c ≠ '\\') :
      SpellsChar c [c]
  | letter {c e : Char} (escape : escaped? e = some c) : SpellsChar c ['\\', e]
  | unit {a b c d : Char} {n : Nat} (digits : hexUnit? a b c d = some n)
      (notHigh : isHighSurrogate n = false) (notLow : isLowSurrogate n = false) :
      SpellsChar (Char.ofNat n) ['\\', 'u', a, b, c, d]
  | pair {a b c d a' b' c' d' : Char} {n m : Nat} (first : hexUnit? a b c d = some n)
      (second : hexUnit? a' b' c' d' = some m) (high : isHighSurrogate n = true)
      (low : isLowSurrogate m = true) :
      SpellsChar (ofSurrogates n m) ['\\', 'u', a, b, c, d, '\\', 'u', a', b', c', d']

/-- A text between the quotes of a string. -/
inductive SpellsString : Text → Text → Prop
  | nil : SpellsString [] []
  | cons {c : Char} {piece t s : Text} (first : SpellsChar c piece) (more : SpellsString t s) :
      SpellsString (c :: t) (piece ++ s)

/-- What a part of a JSON text stands for: a value, a value with blanks around it, or the items or
members of a container up to its closing bracket. -/
inductive Part where
  | value (v : Value)
  | element (v : Value)
  | items (items : List Value)
  | members (members : List (Value × Value))

/-- **The texts of a part** whose containers are nested at most so deep.  No name of a mapping comes
twice, and the integers have finite numbers. -/
inductive Spells : Nat → Part → Text → Prop
  | null {n : Nat} : Spells n (.value .null) "null".toList
  | bool {n : Nat} {b : Bool} :
      Spells n (.value (.bool b)) (if b then "true".toList else "false".toList)
  | int {n : Nat} {k : Int} (finite : k.natAbs < Binary64.overflowBound) :
      Spells n (.value (.int k)) (Numeral.ofInt k)
  | text {n : Nat} {t s : Text} (string : SpellsString t s) :
      Spells n (.value (.text t)) ('"' :: s ++ ['"'])
  | emptyList {n : Nat} {gap : Text} (blank : IsGap gap) :
      Spells n (.value (.list [])) ('[' :: gap ++ [']'])
  | list {n : Nat} {items : List Value} {t : Text} (content : Spells n (.items items) t) :
      Spells (n + 1) (.value (.list items)) ('[' :: t)
  | emptyMapping {n : Nat} {gap : Text} (blank : IsGap gap) :
      Spells n (.value (.mapping [])) ('{' :: gap ++ ['}'])
  | mapping {n : Nat} {members : List (Value × Value)} {t : Text}
      (distinct : members.Pairwise fun p q => Value.sameKey p.1 q.1 = false)
      (content : Spells n (.members members) t) :
      Spells (n + 1) (.value (.mapping members)) ('{' :: t)
  | element {n : Nat} {v : Value} {before t after : Text} (blank : IsGap before)
      (content : Spells n (.value v) t) (blank' : IsGap after) :
      Spells n (.element v) (before ++ t ++ after)
  | lastItem {n : Nat} {v : Value} {t : Text} (item : Spells n (.element v) t) :
      Spells n (.items [v]) (t ++ [']'])
  | item {n : Nat} {v : Value} {items : List Value} {t t' : Text}
      (item : Spells n (.element v) t) (more : Spells n (.items items) t') :
      Spells n (.items (v :: items)) (t ++ ',' :: t')
  | lastMember {n : Nat} {name s before after t : Text} {v : Value} (blank : IsGap before)
      (string : SpellsString name s) (blank' : IsGap after) (item : Spells n (.element v) t) :
      Spells n (.members [(.text name, v)])
        (before ++ '"' :: s ++ '"' :: after ++ ':' :: t ++ ['}'])
  | member {n : Nat} {name s before after t t' : Text} {v : Value}
      {members : List (Value × Value)} (blank : IsGap before) (string : SpellsString name s)
      (blank' : IsGap after) (item : Spells n (.element v) t)
      (more : Spells n (.members members) t') :
      Spells n (.members ((.text name, v) :: members))
        (before ++ '"' :: s ++ '"' :: after ++ ':' :: t ++ ',' :: t')

/-- **A JSON text of a value** whose containers are nested at most so deep. -/
def IsTextOf (nesting : Nat) (v : Value) (t : Text) : Prop := Spells nesting (.element v) t

/-! ## How texts open -/

/-- What a number opens with, a digit or a sign, opens nothing else. -/
theorem ne_of_opens_number {c x : Char} (h : c.isDigit = true ∨ c = '-')
    (hx : ¬ (x.isDigit = true ∨ x = '-')) : c ≠ x := by
  rintro rfl
  exact hx h

/-- A numeral of a natural number opens with a digit. -/
theorem exists_digit_ofNat (n : Nat) :
    ∃ d digits, Numeral.ofNat n = d :: digits ∧ d.isDigit = true := by
  obtain ⟨d, digits, hdigits⟩ := List.exists_cons_of_ne_nil (Numeral.ofNat_ne_nil n)
  have hmem : d ∈ Numeral.ofNat n := by
    rw [hdigits]
    exact List.mem_cons_self
  exact ⟨d, digits, hdigits, Numeral.isDigit_of_mem_ofNat hmem⟩

/-- A numeral opens with a digit or a sign. -/
theorem exists_opening_ofInt (k : Int) :
    ∃ c more, Numeral.ofInt k = c :: more ∧ (c.isDigit = true ∨ c = '-') := by
  cases k with
  | ofNat n =>
      obtain ⟨d, digits, hdigits, hd⟩ := exists_digit_ofNat n
      exact ⟨d, digits, hdigits, Or.inl hd⟩
  | negSucc n => exact ⟨'-', Numeral.ofNat (n + 1), rfl, Or.inr rfl⟩

/-- What opens, behind blanks, with anything but a blank or a bracket that closes. -/
def Opens (t : Text) : Prop :=
  ∃ gap c more, IsGap gap ∧ isGap c = false ∧ c ≠ ']' ∧ c ≠ '}' ∧ t = gap ++ c :: more

/-- A text opens with any code point that is neither a blank nor a closing bracket. -/
theorem opens_cons {c : Char} (h : isGap c = false ∧ c ≠ ']' ∧ c ≠ '}') (t : Text) :
    Opens (c :: t) :=
  ⟨[], c, t, List.forall_mem_nil _, h.1, h.2.1, h.2.2, rfl⟩

/-- A number opens. -/
theorem opens_of_number {c : Char} (h : c.isDigit = true ∨ c = '-') (t : Text) :
    Opens (c :: t) :=
  opens_cons ⟨by simp [isGap, ne_of_opens_number h], ne_of_opens_number h (by decide),
    ne_of_opens_number h (by decide)⟩ t

/-- What follows a text does not change how it opens. -/
theorem Opens.append {t : Text} (h : Opens t) (rest : Text) : Opens (t ++ rest) := by
  obtain ⟨gap, c, more, hgap, hc, hbracket, hbrace, rfl⟩ := h
  exact ⟨gap, c, more ++ rest, hgap, hc, hbracket, hbrace, by simp⟩

/-- Nor do blanks in front of it. -/
theorem Opens.behind {t gap : Text} (h : Opens t) (hgap : IsGap gap) : Opens (gap ++ t) := by
  obtain ⟨gap', c, more, hgap', hc, hbracket, hbrace, rfl⟩ := h
  refine ⟨gap ++ gap', c, more, ?_, hc, hbracket, hbrace, by simp⟩
  exact List.forall_mem_append.mpr ⟨hgap, hgap'⟩

/-- Every part opens, and none closes the container around it. -/
theorem opens_of_spells {nesting : Nat} {part : Part} {t : Text} (h : Spells nesting part t) :
    Opens t := by
  induction h with
  | null => exact opens_cons (by decide) _
  | @bool _ b =>
      cases b with
      | true => exact opens_cons (by decide) _
      | false => exact opens_cons (by decide) _
  | @int _ k =>
      obtain ⟨c, more, htext, hc⟩ := exists_opening_ofInt k
      rw [htext]
      exact opens_of_number hc more
  | text => exact opens_cons (by decide) _
  | emptyList => exact opens_cons (by decide) _
  | list => exact opens_cons (by decide) _
  | emptyMapping => exact opens_cons (by decide) _
  | mapping => exact opens_cons (by decide) _
  | element hbefore _ _ ih => exact (ih.behind hbefore).append _
  | lastItem _ ih => exact ih.append _
  | item _ _ ih => exact ih.append _
  | lastMember hbefore =>
      simp only [List.append_assoc]
      exact (opens_cons (by decide) _).behind hbefore
  | member hbefore =>
      simp only [List.append_assoc]
      exact (opens_cons (by decide) _).behind hbefore

end FullTextSearch.Json
