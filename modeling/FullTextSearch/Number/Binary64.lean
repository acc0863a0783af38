/-
# `FullTextSearch.Number.Binary64` — double precision numbers as exact values.

A number is a sign, a natural significand and a power of two, so every operation is exact integer
arithmetic.  `ofRatio` is the one place that rounds: a quotient goes to the nearest number of 53
significant bits, a half to the even neighbour, a quotient too small for the exponent range loses
bits, and one too large is infinite.  Decimals and integers are quotients.
-/
import FullTextSearch.Number.Numeral

namespace FullTextSearch

/-- A double precision number; `finite s m e` is `m · 2 ^ e`, negated when `s` holds. -/
inductive Binary64 where
  | nan
  | infinite (negative : Bool)
  | finite (negative : Bool) (significand : Nat) (exponent : Int)
deriving DecidableEq, Repr

namespace Binary64

/-- The exponent of the smallest steps, those next to zero. -/
def minExponent : Int := -1074

/-- The exponent of the largest steps. -/
def maxExponent : Int := 971

/-- Positive zero. -/
def zero : Binary64 := .finite false 0 0

/-- The least significand of 53 bits. -/
def leastFull : Nat := 0x10000000000000

/-- One. -/
def one : Binary64 := .finite false leastFull (-52)

/-! ## Rounding -/

/-- The integer nearest to a quotient, a half going to the even neighbour. -/
def roundHalfEven (num den : Nat) : Nat :=
  let q := num / den
  let r := 2 * (num % den)
  if r < den then q else if den < r then q + 1 else q + q % 2

/-- The quotient `num / den` counted in units of `2 ^ e`, as a quotient. -/
def inUnits (num den : Nat) (e : Int) : Nat × Nat :=
  (num <<< (-e).toNat, den <<< e.toNat)

/-- The exponent at which a positive quotient has 53 significant bits, or the smallest exponent. -/
def exponentOf (num den : Nat) : Int :=
  let e : Int := num.log2 - den.log2 - 53
  let (n, d) := inUnits num den e
  max minExponent (if n / d < 2 * leastFull then e else e + 1)

/-- The number nearest to `num / den`, with a sign. -/
def ofRatio (negative : Bool) (num den : Nat) : Binary64 :=
  let e := exponentOf num den
  let (n, d) := inUnits num den e
  let m := roundHalfEven n d
  if m = 0 then .finite negative 0 0
  else
    let (m, e) := if m = 2 * leastFull then (leastFull, e + 1) else (m, e)
    if e ≤ maxExponent then .finite negative m e else .infinite negative

/-- The number nearest to `digits · 10 ^ e`.  A power of ten far outside the range is not raised. -/
def ofDecimal (negative : Bool) (digits : Nat) (e : Int) : Binary64 :=
  let magnitude : Int := (Numeral.ofNat digits).length + e
  if digits = 0 ∨ magnitude < -330 then .finite negative 0 0
  else if 320 < magnitude then .infinite negative
  else ofRatio negative (digits * Nat.pow 10 e.toNat) (Nat.pow 10 (-e).toNat)

/-- The number nearest to an integer. -/
def ofInt (n : Int) : Binary64 := ofRatio (n < 0) n.natAbs 1

/-! ## Comparison -/

/-- Whether the number is an integer's exact value; the sign of zero does not count. -/
def isInt (n : Int) : Binary64 → Bool
  | .finite negative m e =>
    let size : Int := (m <<< e.toNat : Nat)
    (if negative then -size else size) == n * (1 <<< (-e).toNat : Nat)
  | _ => false

/-- Equality of value: the two zeros are equal and nothing equals a NaN. -/
def sameValue : Binary64 → Binary64 → Bool
  | .finite s m e, .finite s' m' e' =>
    (m == 0 && m' == 0) ||
      (s == s' && m <<< (e - e').toNat == m' <<< (e' - e).toNat)
  | .infinite s, .infinite s' => s == s'
  | _, _ => false

/-- The nearest number between zero and one.  A NaN and the negative zero count as zero. -/
def clampUnit : Binary64 → Binary64
  | .nan => zero
  | .infinite negative => if negative then zero else one
  | .finite negative m e =>
    if negative ∨ m = 0 then zero
    else if 1 <<< (-e).toNat ≤ m <<< e.toNat then one
    else .finite false m e

/-! ## Small lemmas -/

/-- A clamped number stays where it is. -/
theorem clampUnit_clampUnit (x : Binary64) : x.clampUnit.clampUnit = x.clampUnit := by
  cases x with
  | nan => decide
  | infinite negative => cases negative <;> decide
  | finite negative m e =>
    by_cases hpos : negative ∨ m = 0
    · simp only [clampUnit, if_pos hpos]
      decide
    · by_cases hone : 1 <<< (-e).toNat ≤ m <<< e.toNat
      · simp only [clampUnit, if_neg hpos, if_pos hone]
        decide
      · have hm : ¬(false = true ∨ m = 0) := fun h => hpos (h.elim (by simp) Or.inr)
        simp only [clampUnit, if_neg hpos, if_neg hone, if_neg hm]

end Binary64

end FullTextSearch
