/-
# `FullTextSearch.Number.Numeral` — decimal numerals of integers.

An integer is written with its decimal digits, without leading zeros, a negative one after a minus
sign.  A run of the digits `0` to `9` is valued in base ten.  No run longer than `maxDigits` is read,
leading zeros counted, and no integer of more digits is written (`Writable`), so a number read once
can be written again.

The statements here are that the value of a written number is the number, and so that no two integers
are written alike.
-/
import FullTextSearch.Text.Blank

namespace FullTextSearch.Numeral

/-- The longest run of digits that is read or written as one integer. -/
def maxDigits : Nat := 4300

/-- The decimal digits of a natural number, most significant first. -/
def ofNat (n : Nat) : Text := Nat.toDigits 10 n

/-- The numeral of an integer. -/
def ofInt : Int → Text
  | .ofNat n => ofNat n
  | .negSucc n => '-' :: ofNat (n + 1)

/-- Whether an integer is written at all: its sign is no digit. -/
def Writable (n : Int) : Prop := (ofNat n.natAbs).length ≤ maxDigits

instance (n : Int) : Decidable (Writable n) := Nat.decLe _ _

/-- The value in base ten of a run of digits `0` to `9`. -/
def value (digits : Text) : Nat := Nat.ofDigitChars 10 digits 0

/-- A written number reads back. -/
theorem value_ofNat (n : Nat) : value (ofNat n) = n :=
  Nat.ofDigitChars_toDigits (by decide) (by decide)

/-- The numbers below a power of ten are those with no more digits than its exponent. -/
theorem length_ofNat_le_iff {n k : Nat} (h : 0 < k) : (ofNat n).length ≤ k ↔ n < Nat.pow 10 k :=
  Nat.length_toDigits_le_iff (by decide) h

/-- An integer is written where it has no more digits than a power of ten allows. -/
theorem writable_iff {n : Int} : Writable n ↔ n.natAbs < Nat.pow 10 maxDigits :=
  length_ofNat_le_iff (by decide)

/-- A numeral of a natural number holds digits only. -/
theorem isDigit_of_mem_ofNat {n : Nat} {c : Char} (h : c ∈ ofNat n) : c.isDigit = true :=
  Nat.isDigit_of_mem_toDigits (by decide) (by decide) h

/-- No numeral is empty. -/
theorem ofNat_ne_nil (n : Nat) : ofNat n ≠ [] :=
  List.ne_nil_of_length_pos Nat.length_toDigits_pos

/-! ## Numbers told apart -/

/-- Two natural numbers are written alike only if they are equal. -/
theorem ofNat_injective : Function.Injective ofNat :=
  Function.LeftInverse.injective value_ofNat

/-- A numeral holds digits and minus signs only. -/
theorem eq_dash_or_isDigit_of_mem_ofInt {n : Int} {c : Char} (h : c ∈ ofInt n) :
    c = '-' ∨ c.isDigit = true := by
  cases n with
  | ofNat n => exact Or.inr (isDigit_of_mem_ofNat h)
  | negSucc n =>
      rcases List.mem_cons.mp h with hdash | hdigit
      · exact Or.inl hdash
      · exact Or.inr (isDigit_of_mem_ofNat hdigit)

/-- The sign sets a negative number apart from every natural one. -/
theorem ofNat_ne_ofInt_negSucc (m n : Nat) : ofNat m ≠ ofInt (.negSucc n) := by
  intro h
  have hdash : '-' ∈ ofNat m := by
    rw [h]
    exact List.mem_cons_self
  exact absurd (isDigit_of_mem_ofNat hdash) (by decide)

/-- Two integers are written alike only if they are equal. -/
theorem ofInt_injective : Function.Injective ofInt := by
  intro m n h
  cases m with
  | ofNat m =>
      cases n with
      | ofNat n => exact congrArg Int.ofNat (ofNat_injective h)
      | negSucc n => exact absurd h (ofNat_ne_ofInt_negSucc m n)
  | negSucc m =>
      cases n with
      | ofNat n => exact absurd h.symm (ofNat_ne_ofInt_negSucc n m)
      | negSucc n =>
          have hsucc : m + 1 = n + 1 := ofNat_injective (List.cons.inj h).2
          exact congrArg Int.negSucc (Nat.succ.inj hsucc)

end FullTextSearch.Numeral
