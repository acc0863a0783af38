/-
# `FullTextSearch.Number.Shortest` — the shortest decimal that reads back.

Around a double precision number lies the interval of reals that round to it; its ends belong to it
exactly when the significand is even.  For one, two, … seventeen digits `shortest` takes the
number's two neighbours on the grid of decimals with that many digits: the first grid with a
neighbour in the interval wins, of two the nearer one.  All of it is integer arithmetic on common
denominators.

How the digits are laid out is a `Layout`: where positional writing ends and how wide an exponent
is.
-/
import FullTextSearch.Number.Binary64

namespace FullTextSearch

/-- A positive decimal `d₁.d₂d₃… · 10 ^ exponent` with no zero at its end. -/
structure Scientific where
  digits : Text
  exponent : Int
deriving DecidableEq, Repr

namespace Binary64

/-! ## The interval of a number -/

/-- The reals that round to a positive number: `low`, the number and `high` over one denominator. -/
structure Neighbourhood where
  low : Nat
  value : Nat
  high : Nat
  den : Nat
  /-- Whether the two ends belong to the interval. -/
  closed : Bool

/-- The interval of `m · 2 ^ q`, in quarter steps: half a step to either side, but only a quarter
below a power of two, where the steps double. -/
def neighbourhood (m : Nat) (q : Int) : Neighbourhood :=
  let below := if m = leastFull ∧ minExponent < q then 1 else 2
  let scale := (q - 2).toNat
  { low := (4 * m - below) <<< scale
    value := (4 * m) <<< scale
    high := (4 * m + 2) <<< scale
    den := 1 <<< (2 - q).toNat
    closed := m % 2 == 0 }

/-- Whether `n · 10 ^ g` lies in the interval. -/
def Neighbourhood.contains (b : Neighbourhood) (n : Nat) (g : Int) : Bool :=
  let point := n * Nat.pow 10 g.toNat * b.den
  let low := b.low * Nat.pow 10 (-g).toNat
  let high := b.high * Nat.pow 10 (-g).toNat
  if b.closed then low ≤ point && point ≤ high else low < point && point < high

/-! ## The digits -/

/-- The power of ten of a quotient's leading digit. -/
def leadingExponent (num den : Nat) : Int :=
  let shift := (Numeral.ofNat den).length
  (Numeral.ofNat (num * Nat.pow 10 shift / den)).length - 1 - shift

/-- The neighbour in the interval, if any, on the grid of multiples of `10 ^ g`. -/
def Neighbourhood.onGrid (b : Neighbourhood) (g : Int) : Option Nat :=
  let num := b.value * Nat.pow 10 (-g).toNat
  let den := b.den * Nat.pow 10 g.toNat
  let n := num / den
  match b.contains n g, b.contains (n + 1) g with
  | true, true => some (roundHalfEven num den)
  | true, false => some n
  | false, true => some (n + 1)
  | false, false => none

/-- The decimal `n · 10 ^ g` without zeros at its end. -/
def scientific (n : Nat) (g : Int) : Scientific :=
  let digits := Numeral.ofNat n
  { digits := (digits.reverse.dropWhile (· == '0')).reverse
    exponent := digits.length - 1 + g }

/-- The shortest decimal that rounds to the positive number `m · 2 ^ q`. -/
def shortest (m : Nat) (q : Int) : Scientific :=
  let b := neighbourhood m q
  let top := leadingExponent b.value b.den
  let grids := (List.range 17).map fun (n : Nat) => top - (n : Int)
  match grids.findSome? fun g => (b.onGrid g).map fun n => scientific n g with
  | some s => s
  | none =>
    let num := b.value * Nat.pow 10 (16 - top).toNat
    scientific (num / (b.den * Nat.pow 10 (top - 16).toNat)) (top - 16)

/-! ## Layout -/

/-- How the digits of a number are laid out. -/
structure Layout where
  /-- The least power of ten of a leading digit that is written positionally. -/
  positionalFrom : Int
  /-- The first power of ten that is written with an exponent. -/
  positionalTo : Int
  /-- The least number of digits of an exponent. -/
  exponentDigits : Nat

/-- Zeros in front of a numeral up to a width. -/
def padded (width : Nat) (digits : Text) : Text :=
  List.replicate (width - digits.length) '0' ++ digits

/-- Positional digits: at least one stands on each side of the point. -/
def positional (s : Scientific) : Text :=
  match s.exponent with
  | .ofNat e =>
    let whole := s.digits.take (e + 1)
    let rest := s.digits.drop (e + 1)
    whole ++ List.replicate (e + 1 - whole.length) '0' ++ ['.'] ++
      (if rest = [] then ['0'] else rest)
  | .negSucc e => ['0', '.'] ++ List.replicate e '0' ++ s.digits

/-- Digits with an exponent: the point is left out after a single digit, the sign is always
there. -/
def exponential (width : Nat) (s : Scientific) : Text :=
  let fraction := s.digits.drop 1
  s.digits.take 1 ++ (if fraction = [] then [] else '.' :: fraction) ++
    ['e', if s.exponent < 0 then '-' else '+'] ++ padded width (Numeral.ofNat s.exponent.natAbs)

/-- The text of a number: the shortest digits that read back, in a layout. -/
def write (layout : Layout) : Binary64 → Text
  | .nan => "nan".toList
  | .infinite negative => (if negative then ['-'] else []) ++ "inf".toList
  | .finite negative m e =>
    (if negative then ['-'] else []) ++
      (if m = 0 then "0.0".toList
      else
        let s := shortest m e
        if layout.positionalFrom ≤ s.exponent ∧ s.exponent < layout.positionalTo then positional s
        else exponential layout.exponentDigits s)

end Binary64

end FullTextSearch
