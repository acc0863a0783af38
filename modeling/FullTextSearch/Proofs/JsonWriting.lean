/-
# `FullTextSearch.Proofs.JsonWriting` — writing a value as JSON text.

The writer puts the members of a mapping in their order, a blank behind every comma and colon, and
nothing but printable ASCII: a code point that cannot stand for itself is escaped, by one letter where
it has one and else by one unit of four hexadecimal digits or by a pair of surrogates.

The main statement is `isTextOf_write`: what is written for an encodable value is one of its texts.
-/
import FullTextSearch.Proofs.JsonText

namespace FullTextSearch.Json

/-! ## Code points -/

/-- The letter of the escape of a code point that has one. -/
def letter? : Char → Option Char
  | '"' => some '"'
  | '\\' => some '\\'
  | '\n' => some 'n'
  | '\r' => some 'r'
  | '\t' => some 't'
  | '\x08' => some 'b'
  | '\x0c' => some 'f'
  | _ => none

/-- A unit as an escape of four hexadecimal digits. -/
def writeUnit (n : Nat) : Text :=
  ['\\', 'u', Nat.digitChar (n / 4096), Nat.digitChar (n / 256 % 16), Nat.digitChar (n / 16 % 16),
    Nat.digitChar (n % 16)]

/-- A code point inside a string. -/
def writeChar (c : Char) : Text :=
  match letter? c with
  | some e => ['\\', e]
  | none =>
    if 0x20 ≤ c.toNat ∧ c.toNat < 0x7f then [c]
    else if c.toNat < 0x10000 then writeUnit c.toNat
    else
      let n := c.toNat - 0x10000
      writeUnit (0xD800 + n / 0x400) ++ writeUnit (0xDC00 + n % 0x400)

/-- The letter of an escape is read back. -/
theorem escaped?_letter? {c e : Char} (h : letter? c = some e) : escaped? e = some c := by
  unfold letter? at h
  split at h
  all_goals
    cases h
  all_goals
    rfl

/-- A hexadecimal digit is read back. -/
theorem hexDigit?_digitChar {d : Nat} (h : d < 16) : hexDigit? (Nat.digitChar d) = some d := by
  revert d
  decide

/-- The four digits of a unit are read back. -/
theorem hexUnit?_digitChar {n : Nat} (h : n < 0x10000) :
    hexUnit? (Nat.digitChar (n / 4096)) (Nat.digitChar (n / 256 % 16))
      (Nat.digitChar (n / 16 % 16)) (Nat.digitChar (n % 16)) = some n := by
  rw [hexUnit?, hexDigit?_digitChar (by omega), hexDigit?_digitChar (by omega),
    hexDigit?_digitChar (by omega), hexDigit?_digitChar (by omega)]
  show some (n / 4096 * 4096 + n / 256 % 16 * 256 + n / 16 % 16 * 16 + n % 16) = some n
  congr 1
  omega

/-- A code point that is no surrogate fits into one unit. -/
theorem spellsChar_writeUnit {n : Nat} (h : n < 0xD800 ∨ (0xDFFF < n ∧ n < 0x10000)) :
    SpellsChar (Char.ofNat n) (writeUnit n) := by
  refine .unit (hexUnit?_digitChar (by omega)) ?_ ?_
  · rw [isHighSurrogate, Bool.and_eq_false_iff, decide_eq_false_iff_not, decide_eq_false_iff_not]
    omega
  · rw [isLowSurrogate, Bool.and_eq_false_iff, decide_eq_false_iff_not, decide_eq_false_iff_not]
    omega

/-- A pair of surrogates makes up for what does not fit into one unit. -/
theorem spellsChar_writeUnits {n : Nat} (h : n < 0x100000) :
    SpellsChar (Char.ofNat (0x10000 + n))
      (writeUnit (0xD800 + n / 0x400) ++ writeUnit (0xDC00 + n % 0x400)) := by
  have hhigh : isHighSurrogate (0xD800 + n / 0x400) = true := by
    rw [isHighSurrogate, Bool.and_eq_true_iff, decide_eq_true_iff, decide_eq_true_iff]
    omega
  have hlow : isLowSurrogate (0xDC00 + n % 0x400) = true := by
    rw [isLowSurrogate, Bool.and_eq_true_iff, decide_eq_true_iff, decide_eq_true_iff]
    omega
  have hsum : 0x10000 + (0xD800 + n / 0x400 - 0xD800) * 0x400 +
      (0xDC00 + n % 0x400 - 0xDC00) = 0x10000 + n := by
    omega
  have hpair := SpellsChar.pair (hexUnit?_digitChar (by omega)) (hexUnit?_digitChar (by omega))
    hhigh hlow
  rw [ofSurrogates, hsum] at hpair
  exact hpair

/-- Every code point is written as it may be spelled. -/
theorem spellsChar_writeChar (c : Char) : SpellsChar c (writeChar c) := by
  have hcode : Char.ofNat c.toNat = c := Char.ofNat_toNat c
  have hvalid : c.toNat < 0xD800 ∨ (0xDFFF < c.toNat ∧ c.toNat < 0x110000) := c.valid
  rw [writeChar]
  split
  · next hletter => exact .letter (escaped?_letter? hletter)
  · next hletter =>
      split
      · next hascii =>
          refine .plain hascii.1 ?_ ?_
          all_goals
            rintro rfl
            cases hletter
      · split
        · next hunit =>
            have hspells := spellsChar_writeUnit (n := c.toNat) (by omega)
            rwa [hcode] at hspells
        · next hlarge =>
            have hspells := spellsChar_writeUnits (n := c.toNat - 0x10000) (by omega)
            have hsum : 0x10000 + (c.toNat - 0x10000) = c.toNat := by omega
            rwa [hsum, hcode] at hspells

/-! ## Values -/

/-- A text between the quotes of a string. -/
def writeString (t : Text) : Text := t.flatMap writeChar

mutual

/-- A value; one that cannot be encoded leaves nothing. -/
def write : Value → Text
  | .null => "null".toList
  | .bool b => if b then "true".toList else "false".toList
  | .int n => Numeral.ofInt n
  | .text t => '"' :: writeString t ++ ['"']
  | .list items => '[' :: writeItems [] items
  | .mapping members => '{' :: writeMembers [] members
  | _ => []

/-- The items of a list and its closing bracket, each item behind what separates it from those
before. -/
def writeItems (separator : Text) : List Value → Text
  | [] => [']']
  | v :: items => separator ++ write v ++ writeItems ", ".toList items

/-- The members of a mapping and its closing brace. -/
def writeMembers (separator : Text) : List (Value × Value) → Text
  | [] => ['}']
  | (name, v) :: members =>
    separator ++ write name ++ ": ".toList ++ write v ++ writeMembers ", ".toList members

end

/-! ## Encodable values -/

/-- An entry of a mapping under a text. -/
def underText (pair : Text × Value) : Value × Value := (.text pair.1, pair.2)

/-- **The values that JSON text can spell** with containers nested at most so deep: null, truth
values, integers with a finite number, texts, lists of such values, and mappings of them under
different texts. -/
inductive Encodable : Nat → Value → Prop
  | null {n : Nat} : Encodable n .null
  | bool {n : Nat} (b : Bool) : Encodable n (.bool b)
  | int {n : Nat} {k : Int} (finite : k.natAbs < Binary64.overflowBound) : Encodable n (.int k)
  | text {n : Nat} (t : Text) : Encodable n (.text t)
  | emptyList {n : Nat} : Encodable n (.list [])
  | list {n : Nat} {items : List Value} (each : ∀ v ∈ items, Encodable n v) :
      Encodable (n + 1) (.list items)
  | emptyMapping {n : Nat} : Encodable n (.mapping [])
  | mapping {n : Nat} {pairs : List (Text × Value)} (distinct : (pairs.map Prod.fst).Nodup)
      (each : ∀ pair ∈ pairs, Encodable n pair.2) : Encodable (n + 1) (.mapping (pairs.map underText))

/-- Every text is written as it may be spelled. -/
theorem spellsString_writeString (t : Text) : SpellsString t (writeString t) := by
  induction t with
  | nil => exact .nil
  | cons c t ih =>
      rw [writeString, List.flatMap_cons]
      exact .cons (spellsChar_writeChar c) ih

theorem isGap_nil : IsGap [] := List.forall_mem_nil _

theorem isGap_blank : IsGap [' '] := by
  intro c hc
  obtain rfl := List.mem_singleton.mp hc
  rfl

/-- Blanks in front of a value do not change it. -/
theorem spells_element {n : Nat} {v : Value} {gap t : Text} (hgap : IsGap gap)
    (h : Spells n (.value v) t) : Spells n (.element v) (gap ++ t) := by
  have hspells := Spells.element hgap h isGap_nil
  rwa [List.append_nil] at hspells

/-- The items of a list are spelled behind any blanks. -/
theorem spells_writeItems {n : Nat} {v : Value} {items : List Value}
    (h : ∀ w ∈ v :: items, Spells n (.value w) (write w)) {gap : Text} (hgap : IsGap gap) :
    Spells n (.items (v :: items)) (writeItems gap (v :: items)) := by
  induction items generalizing v gap with
  | nil =>
      exact .lastItem (spells_element hgap (h v List.mem_cons_self))
  | cons w items ih =>
      have hmore := ih (fun u hu => h u (List.mem_cons_of_mem v hu)) isGap_blank
      exact .item (spells_element hgap (h v List.mem_cons_self)) hmore

/-- The members of a mapping are spelled behind any blanks. -/
theorem spells_writeMembers {n : Nat} {pair : Text × Value} {pairs : List (Text × Value)}
    (h : ∀ p ∈ pair :: pairs, Spells n (.value p.2) (write p.2)) {gap : Text} (hgap : IsGap gap) :
    Spells n (.members ((pair :: pairs).map underText))
      (writeMembers gap ((pair :: pairs).map underText)) := by
  induction pairs generalizing pair gap with
  | nil =>
      obtain ⟨name, v⟩ := pair
      have hspells := Spells.lastMember hgap (spellsString_writeString name) isGap_nil
        (spells_element isGap_blank (h _ List.mem_cons_self))
      simpa [writeMembers, write, underText] using hspells
  | cons next pairs ih =>
      obtain ⟨name, v⟩ := pair
      have hmore := ih (fun p hp => h p (List.mem_cons_of_mem _ hp)) isGap_blank
      have hspells := Spells.member hgap (spellsString_writeString name) isGap_nil
        (spells_element isGap_blank (h _ List.mem_cons_self)) hmore
      simpa [writeMembers, write, underText] using hspells

/-- Different texts are different keys. -/
theorem pairwise_underText {pairs : List (Text × Value)} (h : (pairs.map Prod.fst).Nodup) :
    (pairs.map underText).Pairwise fun p q => Value.sameKey p.1 q.1 = false := by
  apply List.pairwise_map.mpr
  apply (List.pairwise_map.mp h).imp
  intro p q hne
  exact beq_eq_false_iff_ne.mpr hne

/-- What is written for a value spells it. -/
theorem spells_write {n : Nat} {v : Value} (h : Encodable n v) : Spells n (.value v) (write v) := by
  induction h with
  | null => exact .null
  | bool => exact .bool
  | int hfinite => exact .int hfinite
  | text t => exact .text (spellsString_writeString t)
  | emptyList => exact .emptyList isGap_nil
  | @list _ items _ ih =>
      cases items with
      | nil => exact .emptyList isGap_nil
      | cons v items => exact .list (spells_writeItems ih isGap_nil)
  | emptyMapping => exact .emptyMapping isGap_nil
  | @mapping _ pairs hdistinct _ ih =>
      cases pairs with
      | nil => exact .emptyMapping isGap_nil
      | cons pair pairs =>
          exact .mapping (pairwise_underText hdistinct) (spells_writeMembers ih isGap_nil)

/-- **Every encodable value has a text**: the one that is written for it. -/
theorem isTextOf_write {n : Nat} {v : Value} (h : Encodable n v) : IsTextOf n v (write v) :=
  spells_element isGap_nil (spells_write h)

end FullTextSearch.Json
