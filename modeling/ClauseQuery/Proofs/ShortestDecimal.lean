import ClauseQuery.Proofs.Nearest

/-!
# The shortest decimal reads back

Seventeen digits are enough: no number spans as many steps as `10 ^ 16`.
-/

namespace ClauseQuery

/-! ## Decimals -/

namespace Decimal

def value (d : Decimal) : ℚ := d.digits * 10 ^ d.exponent

theorem value_reduced (d : Decimal) : d.reduced.value = d.value := by
  induction d using reduced.induct with
  | case1 d h ih =>
    have hdiv : d.digits = d.digits / 10 * 10 := by omega
    have hten : (d.digits : ℚ) = (d.digits / 10 : ℕ) * 10 := by exact_mod_cast hdiv
    rw [reduced, dif_pos h, ih, value, value, hten, zpow_add₀ (by norm_num)]
    ring
  | case2 d h => rw [reduced, dif_neg h]

theorem value_eq_zero {d : Decimal} (h : d.digits = 0) : d.value = 0 := by
  rw [value, h, Nat.cast_zero, zero_mul]

end Decimal

theorem pow_length_toDigits_le {n : Nat} (h : 0 < n) :
    10 ^ ((Nat.toDigits 10 n).length - 1) ≤ n := by
  by_cases hl : (Nat.toDigits 10 n).length - 1 = 0
  · rw [hl]
    exact h
  · refine Nat.le_of_not_lt fun hlt => ?_
    have hle := (Nat.length_toDigits_le_iff (by decide) (Nat.pos_of_ne_zero hl)).2 hlt
    omega

theorem pow_toNat {b : ℚ} (hb : b ≠ 0) (e : Int) : b ^ e.toNat = b ^ e * b ^ (-e).toNat := by
  rw [← zpow_natCast, ← zpow_natCast, ← zpow_add₀ hb]
  congr 1
  omega

namespace Binary64

/-! ## Comparisons -/

section
variable (x : Binary64) (e : Int)

def denominator : ℚ := 10 ^ (-e).toNat * 2 ^ (2 - x.scale).toNat

theorem denominator_pos : 0 < x.denominator e :=
  mul_pos (pow_pos (by norm_num) _) (pow_pos (by norm_num) _)

theorem overGrid_eq (quarters : Nat) :
    (x.overGrid e quarters : ℚ) = quarters * (x.ulp / 4) * x.denominator e := by
  have hneg : -(x.scale - 2) = 2 - x.scale := by omega
  have hpow : (2 : ℚ) ^ (x.scale - 2).toNat = x.ulp / 4 * 2 ^ (2 - x.scale).toNat := by
    rw [pow_toNat (by norm_num), hneg, zpow_sub₀ (by norm_num), ulp]
    norm_num
  simp only [overGrid, Nat.pow_eq, denominator]
  push_cast
  rw [hpow]
  ring

theorem overUnit_eq (steps : Nat) :
    (x.overUnit e steps : ℚ) = steps * 10 ^ e * x.denominator e := by
  simp only [overUnit, Nat.pow_eq, denominator]
  push_cast
  rw [pow_toNat (by norm_num) e]
  ring

theorem overGrid_le_iff {quarters steps : Nat} : x.overGrid e quarters ≤ x.overUnit e steps ↔
    (quarters : ℚ) * (x.ulp / 4) ≤ steps * 10 ^ e := by
  rw [← Nat.cast_le (α := ℚ), overGrid_eq, overUnit_eq, mul_le_mul_iff_left₀ (x.denominator_pos e)]

theorem overUnit_le_iff {quarters steps : Nat} : x.overUnit e steps ≤ x.overGrid e quarters ↔
    (steps : ℚ) * 10 ^ e ≤ quarters * (x.ulp / 4) := by
  rw [← Nat.cast_le (α := ℚ), overGrid_eq, overUnit_eq, mul_le_mul_iff_left₀ (x.denominator_pos e)]

theorem overGrid_lt_iff {quarters steps : Nat} : x.overGrid e quarters < x.overUnit e steps ↔
    (quarters : ℚ) * (x.ulp / 4) < steps * 10 ^ e := by
  rw [← not_le, ← not_le, overUnit_le_iff]

theorem overUnit_lt_iff {quarters steps : Nat} : x.overUnit e steps < x.overGrid e quarters ↔
    (steps : ℚ) * 10 ^ e < quarters * (x.ulp / 4) := by
  rw [← not_le, ← not_le, overGrid_le_iff]

end

theorem gapBelow_le (x : Binary64) : x.gapBelow ≤ 2 := by
  unfold gapBelow
  split <;> decide

theorem readsBack_iff {x : Binary64} (hx : 0 < x.significand) (d : Decimal) :
    x.readsBack d = true ↔ x.Covers d.value := by
  have hgap := x.gapBelow_le
  have hcast : ((4 * x.significand - x.gapBelow : ℕ) : ℚ) = 4 * x.significand - x.gapBelow := by
    rw [Nat.cast_sub (by omega)]
    push_cast
    rfl
  have hlow : ((4 * x.significand - x.gapBelow : ℕ) : ℚ) * (x.ulp / 4) =
      x.absolute - x.gapBelow / 4 * x.ulp := by
    rw [hcast, absolute]
    ring
  have hhigh : ((4 * x.significand + 2 : ℕ) : ℚ) * (x.ulp / 4) = x.absolute + x.ulp / 2 := by
    rw [absolute]
    push_cast
    ring
  unfold readsBack
  simp only
  split
  · rename_i heven
    rw [Bool.and_eq_true, decide_eq_true_iff, decide_eq_true_iff, overGrid_le_iff, overUnit_le_iff, hlow, hhigh]
    exact ⟨fun h => ⟨h.1, h.2, fun hodd => absurd heven hodd⟩, fun h => ⟨h.low, h.high⟩⟩
  · rename_i hodd
    rw [Bool.and_eq_true, decide_eq_true_iff, decide_eq_true_iff, overGrid_lt_iff, overUnit_lt_iff, hlow, hhigh]
    exact ⟨fun h => ⟨h.1.le, h.2.le, fun _ => h⟩, fun h => h.inside hodd⟩

/-! ## The grid -/

theorem le_floorOn_iff {x : Binary64} {e : Int} {steps : Nat} :
    steps ≤ x.floorOn e ↔ (steps : ℚ) * 10 ^ e ≤ x.absolute := by
  have hunit : steps * x.overUnit e 1 = x.overUnit e steps := by
    simp only [overUnit]
    ring
  have hpos : 0 < x.overUnit e 1 := by
    have hq : (0 : ℚ) < x.overUnit e 1 := by
      rw [overUnit_eq]
      exact mul_pos (mul_pos (by norm_num) (zpow_pos (by norm_num) _)) (x.denominator_pos e)
    exact_mod_cast hq
  have habs : ((4 * x.significand : ℕ) : ℚ) * (x.ulp / 4) = x.absolute := by
    rw [absolute]
    push_cast
    ring
  rw [floorOn, Nat.le_div_iff_mul_le hpos, hunit, overUnit_le_iff, habs]

theorem pow_le_absolute {x : Binary64} (hx : 0 < x.significand) :
    (10 : ℚ) ^ (-400 : ℤ) ≤ x.absolute := by
  have hsig : (1 : ℚ) ≤ x.significand := by exact_mod_cast hx
  have hscale : -1074 ≤ x.scale := by
    unfold scale
    omega
  calc (10 : ℚ) ^ (-400 : ℤ) ≤ 8 ^ (-400 : ℤ) := by
        rw [zpow_neg, zpow_neg]
        exact inv_anti₀ (zpow_pos (by norm_num) _) (zpow_le_zpow_left₀ (by norm_num) (by norm_num) (by decide))
    _ = 2 ^ (-1200 : ℤ) := by
        rw [show (8 : ℚ) = 2 ^ (3 : ℤ) from rfl, ← zpow_mul]
        rfl
    _ ≤ x.ulp := zpow_le_zpow_right₀ (by norm_num) (by omega)
    _ ≤ x.absolute := by
        have := mul_le_mul_of_nonneg_right hsig x.ulp_pos.le
        rwa [one_mul] at this

theorem pow_magnitude_le {x : Binary64} (hx : 0 < x.significand) :
    (10 : ℚ) ^ (x.magnitude - 1) ≤ x.absolute := by
  have hone : 1 ≤ x.floorOn (-400) := by
    rw [le_floorOn_iff, Nat.cast_one, one_mul]
    exact pow_le_absolute hx
  have hlen : 0 < (Nat.toDigits 10 (x.floorOn (-400))).length := Nat.length_toDigits_pos
  have hle := le_floorOn_iff.1 (pow_length_toDigits_le hone)
  rw [Nat.cast_pow, Nat.cast_ofNat, ← zpow_natCast, ← zpow_add₀ (by norm_num)] at hle
  convert hle using 2
  unfold magnitude
  omega

/-! ## The search -/

theorem onGrid_eq_none_iff {x : Binary64} {e : Int} : x.onGrid? e = none ↔
    x.readsBack ⟨x.floorOn e, e⟩ = false ∧ x.readsBack ⟨x.floorOn e + 1, e⟩ = false := by
  unfold onGrid?
  simp only
  cases x.readsBack ⟨x.floorOn e, e⟩ <;> cases x.readsBack ⟨x.floorOn e + 1, e⟩ <;> simp

theorem covers_of_onGrid {x : Binary64} (hx : 0 < x.significand) {e : Int} {d : Decimal}
    (h : x.onGrid? e = some d) : x.Covers d.value := by
  rw [← readsBack_iff hx]
  unfold onGrid? at h
  simp only at h
  split at h
  · rename_i hlow hhigh
    cases h
    unfold nearer
    simp only
    split
    · exact hlow
    · exact hhigh
  · rename_i hlow _
    cases h
    exact hlow
  · rename_i _ hhigh
    cases h
    exact hhigh
  · cases h

theorem Covers.of_between {x : Binary64} {m : ℚ} (hlow : x.absolute - x.gapBelow / 4 * x.ulp < m)
    (hhigh : m < x.absolute + x.ulp / 2) : x.Covers m :=
  ⟨hlow.le, hhigh.le, fun _ => ⟨hlow, hhigh⟩⟩

/-- Sixteen digits before the last one make a step that is narrower than the gaps. -/
theorem step_lt_gaps {x : Binary64} {e : Int} (he : (10 : ℚ) ^ (e + 16) ≤ x.absolute) :
    (10 : ℚ) ^ e < x.gapBelow / 4 * x.ulp + x.ulp / 2 := by
  have hstep : (10 : ℚ) ^ e * 10000000000000000 ≤ x.significand * x.ulp := by
    rw [zpow_add₀ (by norm_num)] at he
    norm_num at he
    exact he
  have hulp := x.ulp_pos
  unfold gapBelow
  split
  · rename_i hpow
    have hsig : (x.significand : ℚ) = 4503599627370496 := by
      rw [le_significand (by omega), hpow.1]
      norm_num
    rw [hsig] at hstep
    push_cast
    linarith
  · have hsig : (x.significand : ℚ) < 9007199254740992 := by exact_mod_cast x.significand_lt
    have hwide := mul_lt_mul_of_pos_right hsig hulp
    push_cast
    linarith

theorem onGrid_ne_none {x : Binary64} (hx : 0 < x.significand) {e : Int}
    (he : (10 : ℚ) ^ (e + 16) ≤ x.absolute) : x.onGrid? e ≠ none := by
  intro hnone
  obtain ⟨hlow, hhigh⟩ := onGrid_eq_none_iff.1 hnone
  rw [← Bool.not_eq_true, readsBack_iff hx] at hlow hhigh
  have hfloor : ((x.floorOn e : ℕ) : ℚ) * 10 ^ e ≤ x.absolute := le_floorOn_iff.1 le_rfl
  have hnext : x.absolute < ((x.floorOn e + 1 : ℕ) : ℚ) * 10 ^ e := by
    rw [← not_le, ← le_floorOn_iff]
    omega
  have hstep := step_lt_gaps he
  have hgap := x.gap_nonneg
  have hulp := x.ulp_pos
  simp only [Decimal.value] at hlow hhigh
  by_cases hnear : x.absolute - x.gapBelow / 4 * x.ulp < x.floorOn e * 10 ^ e
  · exact hlow (.of_between hnear (by linarith))
  · -- the point below is too far, so the step does not reach past the gap above
    refine hhigh (.of_between (lt_of_le_of_lt (by linarith) hnext) ?_)
    push_cast
    linarith

theorem significand_eq_zero_iff {x : Binary64} : x.isZero = true ↔ x.significand = 0 := by
  unfold isZero significand
  split
  · rename_i he
    simp [he]
  · rename_i he
    simp [he]

theorem covers_zero {x : Binary64} (h : x.significand = 0) : x.Covers 0 := by
  have habs : x.absolute = 0 := by rw [absolute, h, Nat.cast_zero, zero_mul]
  have hgap := x.gap_nonneg
  refine ⟨?_, ?_, fun hodd => ?_⟩
  · linarith
  · linarith [x.ulp_pos]
  · rw [h] at hodd
    exact absurd rfl hodd

theorem not_covers_zero {x : Binary64} (hx : 0 < x.significand) : ¬ x.Covers 0 := by
  intro h
  have hgap : (x.gapBelow : ℚ) ≤ 2 := by exact_mod_cast x.gapBelow_le
  have hsig : (1 : ℚ) ≤ x.significand := by exact_mod_cast hx
  have hulp := x.ulp_pos
  have hlow := h.low
  have hg := mul_le_mul_of_nonneg_right hgap hulp.le
  have hs := mul_le_mul_of_nonneg_right hsig hulp.le
  rw [absolute] at hlow
  linarith

/-- **What the search finds reads back.** It is zero only for zero. -/
theorem covers_shortest (x : Binary64) : x.Covers x.shortest.value ∧
    (x.shortest.digits = 0 → x.shortest.exponent = 0) := by
  by_cases hz : x.isZero = true
  · have hs : x.shortest = ⟨0, 0⟩ := by rw [shortest, if_pos hz]
    rw [hs, Decimal.value_eq_zero rfl]
    exact ⟨covers_zero (significand_eq_zero_iff.1 hz), fun _ => rfl⟩
  · have hx : 0 < x.significand := Nat.pos_of_ne_zero (mt significand_eq_zero_iff.2 hz)
    have hcovers : x.Covers x.shortest.value := by
      rw [shortest, if_neg hz]
      simp only
      split
      · rename_i d hd
        obtain ⟨n, -, hn⟩ := List.exists_of_findSome?_eq_some hd
        rw [Decimal.value_reduced]
        exact covers_of_onGrid hx hn
      · rename_i hnone
        have hgrid := List.findSome?_eq_none_iff.1 hnone 17 (by decide)
        refine absurd hgrid (onGrid_ne_none hx ?_)
        have hmag := pow_magnitude_le hx
        rwa [show x.magnitude - 1 = x.magnitude - (17 : ℕ) + 16 by omega] at hmag
    refine ⟨hcovers, fun hd => ?_⟩
    rw [Decimal.value_eq_zero hd] at hcovers
    exact absurd hcovers (not_covers_zero hx)

end Binary64

end ClauseQuery
