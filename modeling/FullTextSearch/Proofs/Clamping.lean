/-
# `FullTextSearch.Proofs.Clamping` — numbers clamped to the unit interval.

A double precision number is compared as the quotient that it is, so that what a number is clamped
to can be said without the shifts of the clamp.  The main statements are `clampedTo_iff`, which says
that the clamp does what `ClampedTo` asks and nothing else does, and `ClampedTo.inUnit`.
-/
import FullTextSearch.Proofs.Rounding

namespace FullTextSearch

namespace Binary64

/-! ## Numbers as quotients -/

/-- The quotient that a number is; a NaN and the infinities are none. -/
def quotient? : Binary64 → Option Rat
  | .finite negative m e =>
    let size : Int := (m <<< e.toNat : Nat)
    some (mkRat (if negative then -size else size) (1 <<< (-e).toNat))
  | _ => none

/-- A number in the unit interval; a NaN is none. -/
def InUnit (x : Binary64) : Prop := ∃ q, x.quotient? = some q ∧ 0 ≤ q ∧ q ≤ 1

/-- **What a number is clamped to**: zero stands for what lies below, for a NaN and for both zeros,
one for what lies above, and every number between them for itself. -/
structure ClampedTo (x w : Binary64) : Prop where
  nan : x = .nan → w = zero
  infinite : ∀ negative, x = .infinite negative → w = if negative then zero else one
  below : ∀ q, x.quotient? = some q → q ≤ 0 → w = zero
  above : ∀ q, x.quotient? = some q → 1 ≤ q → w = one
  between : ∀ q, x.quotient? = some q → 0 < q → q < 1 → w = x

theorem intCast_lt_mkRat_iff {k n : Int} {d : Nat} (hd : 0 < d) :
    (k : Rat) < mkRat n d ↔ k * d < n := by
  have hpos : (0 : Rat) < ((d : Int) : Rat) := Rat.natCast_pos.mpr hd
  have hdiv : mkRat n d = (n : Rat) / ((d : Int) : Rat) := Rat.mkRat_eq_div n d
  rw [hdiv, Rat.lt_div_iff hpos, ← Rat.intCast_mul, Rat.intCast_lt_intCast]

theorem mkRat_lt_intCast_iff {k n : Int} {d : Nat} (hd : 0 < d) :
    mkRat n d < (k : Rat) ↔ n < k * d := by
  have hpos : (0 : Rat) < ((d : Int) : Rat) := Rat.natCast_pos.mpr hd
  have hdiv : mkRat n d = (n : Rat) / ((d : Int) : Rat) := Rat.mkRat_eq_div n d
  rw [hdiv, Rat.div_lt_iff hpos, ← Rat.intCast_mul, Rat.intCast_lt_intCast]

/-- Every number is a NaN, an infinity, or a quotient on one side of the unit interval or in it. -/
theorem nan_or_infinite_or_quotient (x : Binary64) :
    x = .nan ∨ (∃ negative, x = .infinite negative) ∨
      ∃ q, x.quotient? = some q ∧ (q ≤ 0 ∨ 1 ≤ q ∨ (0 < q ∧ q < 1)) := by
  cases x with
  | nan => exact Or.inl rfl
  | infinite negative => exact Or.inr (Or.inl ⟨negative, rfl⟩)
  | finite negative m e =>
      refine Or.inr (Or.inr ⟨_, rfl, ?_⟩)
      rw [← Rat.not_lt, ← Rat.not_lt]
      exact Decidable.or_iff_not_imp_left.mpr fun hpos =>
        Decidable.or_iff_not_imp_left.mpr fun hlt => ⟨Decidable.not_not.mp hpos,
          Decidable.not_not.mp hlt⟩

/-- A number lies above zero exactly if it is neither zero nor negated. -/
theorem quotient_pos_iff {negative : Bool} {m : Nat} {e : Int} {q : Rat}
    (h : (Binary64.finite negative m e).quotient? = some q) :
    0 < q ↔ ¬ (negative = true ∨ m = 0) := by
  obtain rfl := Option.some.inj h
  have hshift : m <<< e.toNat = 0 ↔ m = 0 := by
    rw [shiftLeft_eq_mul, Nat.mul_eq_zero]
    exact or_iff_left (Nat.ne_of_gt (one_shiftLeft_pos _))
  show ((0 : Int) : Rat) < _ ↔ _
  rw [intCast_lt_mkRat_iff (one_shiftLeft_pos _), Int.zero_mul, ← hshift]
  generalize m <<< e.toNat = size
  cases negative with
  | true =>
      refine iff_of_false ?_ (not_not_intro (Or.inl rfl))
      show ¬ 0 < -(size : Int)
      omega
  | false =>
      rw [or_iff_right Bool.false_ne_true]
      show 0 < (size : Int) ↔ ¬ size = 0
      omega

/-- A number that is not negated reaches one where its significand counts the steps of one. -/
theorem quotient_lt_one_iff {m : Nat} {e : Int} {q : Rat}
    (h : (Binary64.finite false m e).quotient? = some q) :
    q < 1 ↔ ¬ 1 <<< (-e).toNat ≤ m <<< e.toNat := by
  obtain rfl := Option.some.inj h
  show _ < ((1 : Int) : Rat) ↔ _
  rw [mkRat_lt_intCast_iff (one_shiftLeft_pos _), Int.one_mul]
  generalize m <<< e.toNat = size
  generalize 1 <<< (-e).toNat = steps
  show (size : Int) < steps ↔ ¬ steps ≤ size
  omega

theorem clampedTo_clampUnit (x : Binary64) : ClampedTo x x.clampUnit := by
  cases x with
  | nan =>
      refine ⟨fun _ => rfl, ?_, ?_, ?_, ?_⟩
      all_goals
        intro _ h
        cases h
  | infinite negative =>
      refine ⟨?_, ?_, ?_, ?_, ?_⟩
      · intro h
        cases h
      · intro s h
        cases h
        rfl
      all_goals
        intro _ h
        cases h
  | finite negative m e =>
      refine ⟨?_, ?_, ?_, ?_, ?_⟩
      · intro h
        cases h
      · intro s h
        cases h
      · intro q hq hle
        have hzero : negative = true ∨ m = 0 :=
          Decidable.not_not.mp fun h =>
            Rat.not_lt.mpr hle ((quotient_pos_iff hq).mpr h)
        exact if_pos hzero
      · intro q hq hge
        have hpos := (quotient_pos_iff hq).mp (Std.lt_of_lt_of_le (by decide) hge)
        obtain rfl : negative = false := Bool.eq_false_iff.mpr fun h => hpos (Or.inl h)
        have hlarge : 1 <<< (-e).toNat ≤ m <<< e.toNat :=
          Decidable.not_not.mp fun h => Rat.not_lt.mpr hge ((quotient_lt_one_iff hq).mpr h)
        rw [clampUnit, if_neg hpos, if_pos hlarge]
      · intro q hq hpos hlt
        have hpos := (quotient_pos_iff hq).mp hpos
        obtain rfl : negative = false := Bool.eq_false_iff.mpr fun h => hpos (Or.inl h)
        rw [clampUnit, if_neg hpos, if_neg ((quotient_lt_one_iff hq).mp hlt)]

/-- Every number is clamped to one number only. -/
theorem clampedTo_iff {x w : Binary64} : ClampedTo x w ↔ w = x.clampUnit := by
  constructor
  · intro h
    have hclamp := clampedTo_clampUnit x
    rcases nan_or_infinite_or_quotient x with hx | ⟨s, hx⟩ | ⟨q, hq, hle | hge | ⟨hpos, hlt⟩⟩
    · rw [h.nan hx, hclamp.nan hx]
    · rw [h.infinite s hx, hclamp.infinite s hx]
    · rw [h.below q hq hle, hclamp.below q hq hle]
    · rw [h.above q hq hge, hclamp.above q hq hge]
    · rw [h.between q hq hpos hlt, hclamp.between q hq hpos hlt]
  · rintro rfl
    exact clampedTo_clampUnit x

/-- What a number is clamped to lies in the unit interval. -/
theorem ClampedTo.inUnit {x w : Binary64} (h : ClampedTo x w) : w.InUnit := by
  have hzero : zero.InUnit := ⟨_, rfl, by decide, by decide⟩
  have hone : one.InUnit := ⟨_, rfl, by decide, by decide⟩
  rcases nan_or_infinite_or_quotient x with hx | ⟨s, hx⟩ | ⟨q, hq, hle | hge | ⟨hpos, hlt⟩⟩
  · rw [h.nan hx]
    exact hzero
  · rw [h.infinite s hx]
    cases s with
    | true => exact hzero
    | false => exact hone
  · rw [h.below q hq hle]
    exact hzero
  · rw [h.above q hq hge]
    exact hone
  · rw [h.between q hq hpos hlt]
    exact ⟨q, hq, Rat.le_of_lt hpos, Rat.le_of_lt hlt⟩

end Binary64

end FullTextSearch
