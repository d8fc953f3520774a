import ClauseQuery.Decimal.Shortest
import Mathlib.Algebra.Order.Field.Power
import Mathlib.Data.Rat.Cast.Order
import Mathlib.Tactic.Linarith
import Mathlib.Tactic.NormNum
import Mathlib.Tactic.Ring

/-!
# The number nearest to a rational

What lies within half the gaps around a number rounds to it (`Covers.isNearest`), and to no other of its
sign (`IsNearest.unique`).
-/

namespace ClauseQuery

def signed (negative : Bool) (m : ℚ) : ℚ := if negative then -m else m

namespace Binary64

/-! ## Values -/

def ulp (x : Binary64) : ℚ := 2 ^ x.scale

def absolute (x : Binary64) : ℚ := x.significand * x.ulp

def value (x : Binary64) : ℚ := signed x.negative x.absolute

/-- Half-way from the largest finite number to the power of two that follows it. -/
def overflow : ℚ := 2 ^ 1024 - 2 ^ 970

/-- Rounding `r` to the nearest number, ties to even, gives `x`. -/
structure IsNearest (r : ℚ) (x : Binary64) : Prop where
  finite : x.isFinite = true
  inRange : |r| < overflow
  nearest : ∀ y : Binary64, y.isFinite = true → |r - x.value| ≤ |r - y.value|
  even : ∀ y : Binary64, y.isFinite = true → y.value ≠ x.value → |r - y.value| = |r - x.value| →
    x.significand % 2 = 0

theorem ulp_pos (x : Binary64) : 0 < x.ulp := zpow_pos (by norm_num) _

theorem absolute_nonneg (x : Binary64) : 0 ≤ x.absolute :=
  mul_nonneg (Nat.cast_nonneg _) x.ulp_pos.le

theorem abs_signed (negative : Bool) (m : ℚ) : |signed negative m| = |m| := by
  unfold signed
  split
  · exact abs_neg m
  · rfl

theorem abs_value (x : Binary64) : |x.value| = x.absolute := by
  rw [value, abs_signed, abs_of_nonneg x.absolute_nonneg]

theorem significand_lt (x : Binary64) : x.significand < 9007199254740992 := by
  have hf := x.fraction.isLt
  unfold significand
  split <;> omega

theorem le_significand {x : Binary64} (h : x.exponent.val ≠ 0) :
    x.significand = x.fraction.val + 4503599627370496 := by
  rw [significand, if_neg h]

theorem ulp_eq_of_exponent_eq {x y : Binary64} (h : x.exponent = y.exponent) : x.ulp = y.ulp := by
  rw [ulp, ulp, scale, scale, h]

theorem ulp_le_of_exponent_le {x y : Binary64} (h : x.exponent.val ≤ y.exponent.val) :
    x.ulp ≤ y.ulp := by
  refine zpow_le_zpow_right₀ (by norm_num) ?_
  unfold scale
  omega

/-- Past the first two binades, each has twice the steps of the one before it. -/
theorem two_mul_ulp_le {x y : Binary64} (h : x.exponent.val < y.exponent.val)
    (hy : 1 < y.exponent.val) : 2 * x.ulp ≤ y.ulp := by
  have hs : 1 + x.scale ≤ y.scale := by
    unfold scale
    omega
  calc 2 * x.ulp = 2 ^ (1 + x.scale) := by rw [zpow_add₀ (by norm_num), zpow_one, ulp]
    _ ≤ y.ulp := zpow_le_zpow_right₀ (by norm_num) hs

/-! ## The order of the numbers -/

def rank (x : Binary64) : Nat := x.exponent.val * 4503599627370496 + x.fraction.val

theorem eq_of_rank {x y : Binary64} (hs : x.negative = y.negative) (h : x.rank = y.rank) : x = y := by
  obtain ⟨s, e, f⟩ := x
  obtain ⟨s', e', f'⟩ := y
  have hf := f.isLt
  have hf' := f'.isLt
  simp only [rank] at h
  have he : e = e' := Fin.ext (by omega)
  have hff : f = f' := Fin.ext (by omega)
  rw [show s = s' from hs, he, hff]

theorem absolute_eq_of_rank_eq {x y : Binary64} (h : x.rank = y.rank) : x.absolute = y.absolute := by
  have hxy : ({ x with negative := false } : Binary64) = { y with negative := false } := eq_of_rank rfl h
  change absolute { x with negative := false } = absolute { y with negative := false }
  rw [hxy]

theorem significand_mod_two (x : Binary64) : x.significand % 2 = x.rank % 2 := by
  unfold significand rank
  split <;> omega

theorem exponent_le_of_rank_le {x y : Binary64} (h : x.rank ≤ y.rank) :
    x.exponent.val ≤ y.exponent.val := by
  have hx := x.fraction.isLt
  have hy := y.fraction.isLt
  unfold rank at h
  omega

theorem significand_lt_of_rank_lt {x y : Binary64} (he : x.exponent = y.exponent)
    (h : x.rank < y.rank) : x.significand + 1 ≤ y.significand := by
  unfold rank at h
  unfold significand
  rw [he] at h ⊢
  split <;> omega

theorem absolute_add_ulp_le_of_exponent {x y : Binary64} (h : x.exponent.val < y.exponent.val) :
    x.absolute + x.ulp ≤ 4503599627370496 * y.ulp := by
  have hsum : x.absolute + x.ulp = (x.significand + 1 : ℕ) * x.ulp := by
    rw [absolute]
    push_cast
    ring
  by_cases hx : x.exponent.val = 0
  · have hsig : x.significand + 1 ≤ 4503599627370496 := by
      have hf := x.fraction.isLt
      rw [significand, if_pos hx]
      omega
    calc x.absolute + x.ulp = (x.significand + 1 : ℕ) * x.ulp := hsum
      _ ≤ 4503599627370496 * x.ulp := mul_le_mul_of_nonneg_right (by exact_mod_cast hsig) x.ulp_pos.le
      _ ≤ 4503599627370496 * y.ulp := by linarith [ulp_le_of_exponent_le h.le]
  · have hsig : x.significand + 1 ≤ 9007199254740992 := x.significand_lt
    calc x.absolute + x.ulp = (x.significand + 1 : ℕ) * x.ulp := hsum
      _ ≤ 9007199254740992 * x.ulp := mul_le_mul_of_nonneg_right (by exact_mod_cast hsig) x.ulp_pos.le
      _ ≤ 4503599627370496 * y.ulp := by linarith [two_mul_ulp_le h (by omega)]

theorem le_absolute {x : Binary64} (h : x.exponent.val ≠ 0) :
    4503599627370496 * x.ulp ≤ x.absolute := by
  have hsig : 4503599627370496 ≤ x.significand := by
    rw [le_significand h]
    omega
  exact mul_le_mul_of_nonneg_right (by exact_mod_cast hsig) x.ulp_pos.le

theorem absolute_add_ulp_le {x y : Binary64} (h : x.rank < y.rank) :
    x.absolute + x.ulp ≤ y.absolute := by
  rcases Nat.lt_or_eq_of_le (exponent_le_of_rank_le h.le) with he | he
  · exact (absolute_add_ulp_le_of_exponent he).trans (le_absolute (by omega))
  · have he : x.exponent = y.exponent := Fin.ext he
    have hsig : ((x.significand + 1 : ℕ) : ℚ) ≤ y.significand := by
      exact_mod_cast significand_lt_of_rank_lt he h
    calc x.absolute + x.ulp = (x.significand + 1 : ℕ) * x.ulp := by
          rw [absolute]
          push_cast
          ring
      _ ≤ y.significand * x.ulp := mul_le_mul_of_nonneg_right hsig x.ulp_pos.le
      _ = y.absolute := by rw [absolute, ulp_eq_of_exponent_eq he]

theorem absolute_lt {x y : Binary64} (h : x.rank < y.rank) : x.absolute < y.absolute := by
  linarith [absolute_add_ulp_le h, x.ulp_pos]

/-- Below a power of two the gap is half as wide as above it. -/
theorem absolute_add_half_ulp_le {x y : Binary64} (h : y.exponent.val < x.exponent.val)
    (hx : 1 < x.exponent.val) : y.absolute + x.ulp / 2 ≤ x.absolute := by
  have hulp := two_mul_ulp_le h hx
  have hpow := le_absolute (x := x) (by omega)
  have hsig : (y.significand : ℚ) + 1 ≤ 9007199254740992 := by
    exact_mod_cast y.significand_lt
  have hy : y.absolute ≤ 9007199254740991 * y.ulp :=
    mul_le_mul_of_nonneg_right (by linarith) y.ulp_pos.le
  linarith

theorem absolute_add_ulp_le_of_fraction {x y : Binary64} (h : y.exponent.val < x.exponent.val)
    (hx : x.fraction.val ≠ 0) : y.absolute + x.ulp ≤ x.absolute := by
  have hbinade := absolute_add_ulp_le_of_exponent h
  have hpos := y.ulp_pos
  have hsig : (4503599627370496 : ℚ) + 1 ≤ x.significand := by
    rw [le_significand (by omega)]
    exact_mod_cast (by omega : 4503599627370496 + 1 ≤ x.fraction.val + 4503599627370496)
  have hle : (4503599627370496 + 1) * x.ulp ≤ x.absolute := mul_le_mul_of_nonneg_right hsig x.ulp_pos.le
  linarith

theorem absolute_add_gapBelow_le {x y : Binary64} (h : y.rank < x.rank) :
    y.absolute + x.gapBelow / 2 * x.ulp ≤ x.absolute := by
  have hstep := absolute_add_ulp_le h
  unfold gapBelow
  rcases Nat.lt_or_eq_of_le (exponent_le_of_rank_le h.le) with he | he
  · split
    · rename_i hpow
      have hhalf := absolute_add_half_ulp_le he hpow.2
      push_cast
      linarith
    · rename_i hpow
      push_cast
      by_cases hf : x.fraction.val = 0
      · -- the first two binades have steps of one width
        have hulp : x.ulp = y.ulp := by
          rw [ulp, ulp, scale, scale]
          congr 1
          omega
        linarith
      · have hfull := absolute_add_ulp_le_of_fraction he hf
        linarith
  · have hulp : y.ulp = x.ulp := ulp_eq_of_exponent_eq (Fin.ext he)
    have hpos := x.ulp_pos
    split
    · push_cast
      linarith
    · push_cast
      linarith

theorem gap_nonneg (x : Binary64) : 0 ≤ (x.gapBelow : ℚ) / 4 * x.ulp :=
  mul_nonneg (div_nonneg (Nat.cast_nonneg _) (by norm_num)) x.ulp_pos.le

theorem isFinite_iff {x : Binary64} : x.isFinite = true ↔ x.rank < 9218868437227405312 := by
  have he := x.exponent.isLt
  have hf := x.fraction.isLt
  have hiff : x.isFinite = true ↔ x.exponent.val ≠ 2047 := by simp [isFinite]
  rw [hiff, rank]
  omega

theorem exists_rank (negative : Bool) {n : Nat} (h : n < 9218868437227405312) :
    ∃ x : Binary64, x.negative = negative ∧ x.rank = n ∧ x.isFinite = true := by
  let x : Binary64 := ⟨negative, ⟨n / 4503599627370496, by omega⟩, ⟨n % 4503599627370496, by omega⟩⟩
  have hx : x.rank = n := Nat.div_add_mod' n 4503599627370496
  exact ⟨x, rfl, hx, isFinite_iff.2 (by omega)⟩

def largest : Binary64 := ⟨false, 2046, 4503599627370495⟩

theorem ulp_largest : largest.ulp = 2 ^ 971 := by
  have hs : largest.scale = 971 := rfl
  rw [ulp, hs]
  exact zpow_natCast 2 971

theorem absolute_largest : largest.absolute = 9007199254740991 * 2 ^ 971 := by
  have hs : largest.significand = 9007199254740991 := rfl
  rw [absolute, hs, ulp_largest]
  norm_num

theorem overflow_eq : largest.absolute + largest.ulp / 2 = overflow := by
  have hulp : (2 : ℚ) ^ 971 = 2 * 2 ^ 970 := pow_succ' 2 970
  have hnext : (2 : ℚ) ^ 1024 = 2 ^ 54 * 2 ^ 970 := pow_add 2 54 970
  rw [absolute_largest, ulp_largest, overflow, hulp, hnext]
  generalize (2 : ℚ) ^ 970 = p
  ring

/-! ## What rounds to a number -/

/-- Within half the gaps around the number; at the ends themselves only if its significand is even. -/
structure Covers (x : Binary64) (m : ℚ) : Prop where
  low : x.absolute - x.gapBelow / 4 * x.ulp ≤ m
  high : m ≤ x.absolute + x.ulp / 2
  inside : x.significand % 2 ≠ 0 →
    x.absolute - x.gapBelow / 4 * x.ulp < m ∧ m < x.absolute + x.ulp / 2

section
variable {x : Binary64} {m : ℚ} (h : x.Covers m)
include h

theorem Covers.nearest (y : Binary64) : |m - x.absolute| ≤ |m - y.absolute| := by
  rcases Nat.lt_trichotomy x.rank y.rank with hr | hr | hr
  · have hgap := absolute_add_ulp_le hr
    have hy : y.absolute - m ≤ |m - y.absolute| := by
      rw [abs_sub_comm]
      exact le_abs_self _
    refine abs_le.2 ⟨?_, ?_⟩
    · linarith [x.ulp_pos]
    · linarith [h.high]
  · rw [absolute_eq_of_rank_eq hr]
  · have hgap := absolute_add_gapBelow_le hr
    have hy := le_abs_self (m - y.absolute)
    have hlow := h.low
    have hpos := x.gap_nonneg
    refine abs_le.2 ⟨?_, ?_⟩ <;> linarith

theorem Covers.even {y : Binary64} (hne : y.absolute ≠ x.absolute)
    (heq : |m - y.absolute| = |m - x.absolute|) : x.significand % 2 = 0 := by
  refine Classical.byContradiction fun hodd => ?_
  obtain ⟨hlow, hhigh⟩ := h.inside hodd
  rcases Nat.lt_trichotomy x.rank y.rank with hr | hr | hr
  · have hgap := absolute_add_ulp_le hr
    have hy : y.absolute - m ≤ |m - y.absolute| := by
      rw [abs_sub_comm]
      exact le_abs_self _
    have hx : |m - x.absolute| < y.absolute - m := abs_lt.2 ⟨by linarith [x.ulp_pos], by linarith⟩
    linarith
  · exact hne (absolute_eq_of_rank_eq hr).symm
  · have hgap := absolute_add_gapBelow_le hr
    have hy := le_abs_self (m - y.absolute)
    have hlt := absolute_lt hr
    have hx : |m - x.absolute| < m - y.absolute := abs_lt.2 ⟨by linarith, by linarith⟩
    linarith

theorem Covers.lt_overflow (hf : x.isFinite = true) : m < overflow := by
  have hrank : largest.rank = 9218868437227405311 := rfl
  rw [← overflow_eq]
  rcases Nat.lt_or_ge x.rank largest.rank with hr | hr
  · have hgap := absolute_add_ulp_le hr
    linarith [h.high, x.ulp_pos, largest.ulp_pos]
  · have heq : x.rank = largest.rank := by
      have := isFinite_iff.1 hf
      omega
    have hodd : x.significand % 2 ≠ 0 := by
      rw [significand_mod_two, heq, hrank]
      decide
    have hulp : x.ulp = largest.ulp := by
      refine ulp_eq_of_exponent_eq (Fin.ext ?_)
      exact Nat.le_antisymm (exponent_le_of_rank_le heq.le) (exponent_le_of_rank_le heq.ge)
    rw [← absolute_eq_of_rank_eq heq, ← hulp]
    exact (h.inside hodd).2

end

theorem abs_signed_sub (negative : Bool) (m a : ℚ) :
    |signed negative m - signed negative a| = |m - a| := by
  rw [← abs_signed negative (m - a)]
  congr 1
  unfold signed
  split
  · ring
  · rfl

theorem abs_sub_value (r : ℚ) (x : Binary64) : |r - x.value| = |signed x.negative r - x.absolute| := by
  unfold value signed
  split
  · rw [← abs_neg]
    congr 1
    ring
  · rfl

/-- A number of the other sign lies beyond zero. -/
theorem abs_signed_sub_of_ne {s s' : Bool} (hs : s' ≠ s) {m a : ℚ} (hm : 0 ≤ m) (ha : 0 ≤ a) :
    |signed s m - signed s' a| = m + a := by
  have hs' : s' = !s := by
    cases s <;> cases s' <;> simp_all
  rw [← abs_of_nonneg (add_nonneg hm ha), ← abs_signed s (m + a), hs']
  congr 1
  cases s
  · simp [signed]
  · simp only [signed, Bool.not_true, if_true, Bool.false_eq_true, if_false]
    ring

def zero : Binary64 := ⟨false, 0, 0⟩

theorem absolute_zero : zero.absolute = 0 := by
  have hs : zero.significand = 0 := rfl
  rw [absolute, hs, Nat.cast_zero, zero_mul]

/-- **A finite number is the nearest to all that it covers.** -/
theorem Covers.isNearest {x : Binary64} {m : ℚ} (h : x.Covers m) (hf : x.isFinite = true) (hm : 0 ≤ m) :
    IsNearest (signed x.negative m) x := by
  have hzero : |m - x.absolute| ≤ m := by
    have hz := h.nearest zero
    rwa [absolute_zero, sub_zero, abs_of_nonneg hm] at hz
  have hrange : |signed x.negative m| < overflow := by
    rw [abs_signed, abs_of_nonneg hm]
    exact h.lt_overflow hf
  refine ⟨hf, hrange, fun y _ => ?_, fun y _ hne heq => ?_⟩
  · rw [value, value, abs_signed_sub]
    by_cases hs : y.negative = x.negative
    · rw [hs, abs_signed_sub]
      exact h.nearest y
    · rw [abs_signed_sub_of_ne hs hm y.absolute_nonneg]
      linarith [y.absolute_nonneg]
  · rw [value, value] at hne
    rw [value, value, abs_signed_sub] at heq
    by_cases hs : y.negative = x.negative
    · rw [hs, abs_signed_sub] at heq
      refine h.even (y := y) (fun ha => hne ?_) heq
      rw [hs, ha]
    · -- as near as a number beyond zero, so as near as zero
      rw [abs_signed_sub_of_ne hs hm y.absolute_nonneg] at heq
      have hy : y.absolute = 0 := le_antisymm (by linarith) y.absolute_nonneg
      refine h.even (y := zero) (fun ha => hne ?_) ?_
      · rw [← ha, hy, absolute_zero]
        simp [signed]
      · rw [absolute_zero, sub_zero, abs_of_nonneg hm]
        linarith

/-! ## Only one number is nearest -/

theorem abs_sub_lt_of_between {m a b c : ℚ} (h : |m - b| = |m - a|) (hac : a < c) (hcb : c < b) :
    |m - c| < |m - a| := by
  have hmid : 2 * m = a + b := by
    rcases abs_eq_abs.1 h with h | h <;> linarith
  rw [abs_of_nonneg (by linarith : 0 ≤ m - a)]
  exact abs_lt.2 ⟨by linarith, by linarith⟩

theorem IsNearest.rank_le {r : ℚ} {x y : Binary64} (hx : IsNearest r x) (hy : IsNearest r y)
    (hs : x.negative = y.negative) : y.rank ≤ x.rank := by
  refine Nat.le_of_not_lt fun hlt => ?_
  have habs := absolute_lt hlt
  have hne : y.value ≠ x.value := by
    intro h
    have hv := congrArg abs h
    rw [abs_value, abs_value] at hv
    linarith
  have heq : |r - y.value| = |r - x.value| :=
    le_antisymm (hy.nearest x hx.finite) (hx.nearest y hy.finite)
  have hsx := hx.even y hy.finite hne heq
  have hsy := hy.even x hx.finite hne.symm heq.symm
  rw [significand_mod_two] at hsx hsy
  -- between two numbers with even significands there is a third one
  have hrank := isFinite_iff.1 hy.finite
  obtain ⟨z, hzs, hz, hzf⟩ := exists_rank x.negative (n := x.rank + 1) (by omega)
  have hxz : x.absolute < z.absolute := absolute_lt (by omega)
  have hzy : z.absolute < y.absolute := absolute_lt (by omega)
  rw [abs_sub_value, abs_sub_value, ← hs] at heq
  have hcloser := abs_sub_lt_of_between heq hxz hzy
  have hnear := hx.nearest z hzf
  rw [abs_sub_value, abs_sub_value, hzs] at hnear
  linarith

theorem IsNearest.unique {r : ℚ} {x y : Binary64} (hx : IsNearest r x) (hy : IsNearest r y)
    (hs : x.negative = y.negative) : x = y :=
  eq_of_rank hs (Nat.le_antisymm (hy.rank_le hx hs.symm) (hx.rank_le hy hs))

end Binary64

end ClauseQuery
