/-
# `FullTextSearch.Proofs.Rounding` — the integers that no finite number stands for.

An integer rounds to the nearest number of 53 significant bits, so it has no finite number as soon
as it lies halfway between the greatest one and the next power of two: the greatest significand is
odd, and the half goes to the even neighbour.  `overflowBound` is that integer, and
`exists_ofInt_eq_infinite_iff` says that it is the first one.
-/
import FullTextSearch.Number.Binary64

namespace FullTextSearch.Binary64

/-- The least integer that is too large for a finite number, `2 ^ 1024 - 2 ^ 970`. -/
def overflowBound : Nat := (4 * leastFull - 1) <<< 970

/-! ## Powers of two as shifts -/

theorem one_shiftLeft_pos (k : Nat) : 0 < 1 <<< k := by
  rw [Nat.one_shiftLeft]
  exact Nat.two_pow_pos k

theorem shiftLeft_eq_mul (n k : Nat) : n <<< k = n * (1 <<< k) := by
  rw [Nat.shiftLeft_eq, Nat.one_shiftLeft]

theorem one_shiftLeft_add (j k : Nat) : 1 <<< (j + k) = (1 <<< j) * (1 <<< k) := by
  rw [Nat.one_shiftLeft, Nat.one_shiftLeft, Nat.one_shiftLeft, Nat.pow_add]

theorem one_shiftLeft_mono {j k : Nat} (h : j ≤ k) : 1 <<< j ≤ 1 <<< k := by
  rw [Nat.one_shiftLeft, Nat.one_shiftLeft]
  exact Nat.pow_le_pow_right (by decide) h

theorem one_shiftLeft_log2_le {n : Nat} (h : n ≠ 0) : 1 <<< n.log2 ≤ n := by
  rw [Nat.one_shiftLeft]
  exact Nat.log2_self_le h

theorem lt_one_shiftLeft_log2 (n : Nat) : n < 1 <<< (n.log2 + 1) := by
  rw [Nat.one_shiftLeft]
  exact Nat.lt_log2_self

/-! ## Rounding an integer -/

/-- A quotient below an even bound rounds to that bound exactly from halfway to it on. -/
theorem roundHalfEven_eq_even_iff {num den k : Nat} (hk : 0 < k) (hlt : num < den * (2 * k)) :
    roundHalfEven num den = 2 * k ↔ den * (4 * k - 1) ≤ 2 * num := by
  have hden : 0 < den := by
    apply Nat.pos_of_ne_zero
    rintro rfl
    omega
  have hdiv : den * (num / den) + num % den = num := Nat.div_add_mod num den
  have hmod : num % den < den := Nat.mod_lt num hden
  have hquotient : num / den < 2 * k := by
    apply Nat.div_lt_of_lt_mul
    exact hlt
  have hhalf : den * (4 * k - 1) = 2 * (den * (2 * k - 1)) + den := by
    have hsum : 4 * k - 1 = 2 * (2 * k - 1) + 1 := by omega
    rw [hsum, Nat.mul_add, Nat.mul_left_comm, Nat.mul_one]
  rw [hhalf]
  simp only [roundHalfEven]
  by_cases hlast : num / den = 2 * k - 1
  · -- the last quotient is odd, so a half goes up
    rw [hlast] at hdiv ⊢
    split
    · omega
    · split
      · omega
      · omega
  · have hbelow : den * (num / den) ≤ den * (2 * k - 2) := Nat.mul_le_mul_left den (by omega)
    have hstep : den * (2 * k - 1) = den * (2 * k - 2) + den := by
      have hsucc : 2 * k - 1 = 2 * k - 2 + 1 := by omega
      rw [hsucc, Nat.mul_succ]
    constructor
    · intro h
      split at h
      · omega
      · split at h
        · omega
        · omega
    · intro h
      omega

theorem div_le_roundHalfEven (num den : Nat) : num / den ≤ roundHalfEven num den := by
  simp only [roundHalfEven]
  split
  · omega
  · split
    · omega
    · omega

/-- Counted in units of its bit `b` from the top, an integer has `b + 1` bits. -/
theorem one_shiftLeft_le_inUnits {n : Nat} (h : n ≠ 0) (b : Nat) :
    1 <<< b ≤ (inUnits n 1 (n.log2 - b)).1 / (inUnits n 1 (n.log2 - b)).2 := by
  show 1 <<< b ≤ n <<< (-((n.log2 : Int) - b)).toNat / 1 <<< ((n.log2 : Int) - b).toNat
  have hunits : b + ((n.log2 : Int) - b).toNat = n.log2 + (-((n.log2 : Int) - b)).toNat := by
    omega
  rw [Nat.le_div_iff_mul_le (one_shiftLeft_pos _), shiftLeft_eq_mul n, ← one_shiftLeft_add, hunits,
    one_shiftLeft_add]
  exact Nat.mul_le_mul_right _ (one_shiftLeft_log2_le h)

/-- The exponent of an integer depends on its number of bits. -/
theorem exponentOf_one {n : Nat} (h : n ≠ 0) : exponentOf n 1 = (n.log2 : Int) - 52 := by
  have hone : ((Nat.log2 1 : Nat) : Int) = 0 := by decide
  -- counted in the finer units, the integer has one bit too many
  have hfull : ¬ (inUnits n 1 ((n.log2 : Int) - 53)).1 / (inUnits n 1 ((n.log2 : Int) - 53)).2 <
      2 * leastFull := Nat.not_lt.mpr (one_shiftLeft_le_inUnits h 53)
  have hmin : minExponent ≤ (n.log2 : Int) - 53 + 1 := by
    show (-1074 : Int) ≤ (n.log2 : Int) - 53 + 1
    omega
  simp only [exponentOf, hone, Int.sub_zero]
  rw [if_neg hfull, Int.max_eq_right hmin]
  omega

/-! ## Overflow -/

/-- A rounded number is infinite exactly if its exponent passes the largest one. -/
theorem exists_packed_eq_infinite_iff {negative : Bool} {m : Nat} {e : Int} :
    (∃ s, (if e ≤ maxExponent then Binary64.finite negative m e else .infinite negative) =
      .infinite s) ↔ maxExponent < e := by
  split
  · next hfinite =>
      constructor
      · rintro ⟨s, hs⟩
        cases hs
      · intro h
        exact absurd hfinite (Int.not_le.mpr h)
  · next hinfinite => exact iff_of_true ⟨negative, rfl⟩ (Int.not_le.mp hinfinite)

/-- The significand to which a quotient is rounded, counted with an exponent. -/
def significandAt (num den : Nat) (e : Int) : Nat :=
  roundHalfEven (inUnits num den e).1 (inUnits num den e).2

/-- An integer other than zero is not rounded to zero. -/
theorem significandAt_ne_zero {n : Nat} (h : n ≠ 0) :
    significandAt n 1 ((n.log2 : Int) - 52) ≠ 0 := by
  have hbits := Nat.le_trans (one_shiftLeft_le_inUnits h 52) (div_le_roundHalfEven _ _)
  exact Nat.ne_of_gt (Nat.lt_of_lt_of_le (one_shiftLeft_pos 52) hbits)

/-- A quotient that is not rounded to zero is infinite exactly if its exponent passes the largest
one, which a carry may make it do. -/
theorem exists_ofRatio_eq_infinite_iff {negative : Bool} {num den : Nat} {e : Int}
    (he : exponentOf num den = e) (hzero : significandAt num den e ≠ 0) :
    (∃ s, ofRatio negative num den = .infinite s) ↔
      maxExponent < e ∨ significandAt num den e = 2 * leastFull ∧ maxExponent < e + 1 := by
  rw [significandAt] at hzero ⊢
  simp only [ofRatio, he, if_neg hzero]
  by_cases hcarry : roundHalfEven (inUnits num den e).1 (inUnits num den e).2 = 2 * leastFull
  · simp only [if_pos hcarry, exists_packed_eq_infinite_iff]
    omega
  · simp only [if_neg hcarry, exists_packed_eq_infinite_iff]
    omega

/-- Between two powers of two lies the bound of their steps. -/
theorem bound_between (k : Nat) :
    1 <<< (53 + k) ≤ (4 * leastFull - 1) <<< k ∧ (4 * leastFull - 1) <<< k ≤ 1 <<< (54 + k) := by
  have hlow : (1 : Nat) <<< 53 ≤ 4 * leastFull - 1 := by decide
  have hhigh : 4 * leastFull - 1 ≤ (1 : Nat) <<< 54 := by decide
  rw [shiftLeft_eq_mul (4 * leastFull - 1), one_shiftLeft_add, one_shiftLeft_add]
  exact ⟨Nat.mul_le_mul_right _ hlow, Nat.mul_le_mul_right _ hhigh⟩

/-- An integer of 53 bits more than its steps are large is carried into the next power of two
exactly from the bound of those steps on. -/
theorem carries_iff {n k : Nat} (h : n.log2 = k + 53) :
    roundHalfEven n (1 <<< (k + 1)) = 2 * leastFull ↔ (4 * leastFull - 1) <<< k ≤ n := by
  have hlt : n < 1 <<< (k + 1) * (2 * leastFull) := by
    have hbits : 2 * leastFull = 1 <<< 53 := by decide
    have hlog := lt_one_shiftLeft_log2 n
    rw [hbits, ← one_shiftLeft_add]
    rwa [h, Nat.add_right_comm] at hlog
  have hdouble : 1 <<< (k + 1) = 2 * 1 <<< k := by
    rw [Nat.add_comm, one_shiftLeft_add]
    rfl
  rw [roundHalfEven_eq_even_iff (by decide) hlt, hdouble, Nat.mul_assoc,
    shiftLeft_eq_mul (4 * leastFull - 1), Nat.mul_comm (1 <<< k)]
  omega

/-- **The integers without a finite number** are those from `overflowBound` on, of either sign. -/
theorem exists_ofInt_eq_infinite_iff (n : Int) :
    (∃ s, ofInt n = .infinite s) ↔ overflowBound ≤ n.natAbs := by
  have hlow : 1 <<< (53 + 970) ≤ overflowBound := (bound_between 970).1
  have hhigh : overflowBound ≤ 1 <<< (54 + 970) := (bound_between 970).2
  have hmax : maxExponent = 971 := rfl
  rw [ofInt]
  generalize n.natAbs = k
  by_cases hk : k = 0
  · subst hk
    have hzero : ofRatio (decide (n < 0)) 0 1 = .finite (decide (n < 0)) 0 0 := rfl
    have hpos := one_shiftLeft_pos (53 + 970)
    rw [hzero]
    refine iff_of_false ?_ (Nat.not_le.mpr (Nat.lt_of_lt_of_le hpos hlow))
    rintro ⟨s, hs⟩
    cases hs
  · rw [exists_ofRatio_eq_infinite_iff (exponentOf_one hk) (significandAt_ne_zero hk), hmax]
    rcases Nat.lt_trichotomy k.log2 1023 with hbits | hbits | hbits
    · -- fewer bits than the bound, and even a carry stays in the range
      refine iff_of_false (by omega) (Nat.not_le.mpr ?_)
      calc k < 1 <<< (k.log2 + 1) := lt_one_shiftLeft_log2 k
        _ ≤ 1 <<< (53 + 970) := one_shiftLeft_mono (by omega)
        _ ≤ overflowBound := hlow
    · -- as many bits as the bound: a carry decides
      have hunits : inUnits k 1 ((k.log2 : Int) - 52) = (k, 1 <<< (970 + 1)) := by
        rw [hbits]
        rfl
      have hcarry : significandAt k 1 ((k.log2 : Int) - 52) = 2 * leastFull ↔
          overflowBound ≤ k := by
        rw [significandAt, hunits]
        exact carries_iff hbits
      rw [← hcarry]
      omega
    · refine iff_of_true (Or.inl (by omega)) ?_
      calc overflowBound ≤ 1 <<< (54 + 970) := hhigh
        _ ≤ 1 <<< k.log2 := one_shiftLeft_mono (by omega)
        _ ≤ k := one_shiftLeft_log2_le hk

end FullTextSearch.Binary64
