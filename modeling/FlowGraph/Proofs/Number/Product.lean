import FlowGraph.Json.Reader
import FlowGraph.Proofs.Number.Shortest

/-! # Products of doubles

A product of two doubles is rounded to the nearest double, and it is finite as long as it lies below
the midpoint between the largest double and the power of two above it.

* `nearestMagnitude_lt_infinity` is the rule for any ratio.
* `units` is the exact value of a double as a natural number, in its smallest units; `units_mono`
  keeps the order, and `isFinite_mul` is the rule for products.
* `Json.Numeral.isSome_scale_decimal`: the digits of a double and their power of ten have a finite
  product. Those of the largest double are the matter of a computation. -/

namespace FlowGraph

namespace Double

/-! ### Rounding -/

/-- **The power of two** at a number. -/
theorem floorLog2_bounds {num den : Nat} (hnum : 0 < num) (hden : 0 < den) :
    (2 : ℚ) ^ floorLog2 num den ≤ (num : ℚ) / den ∧
      (num : ℚ) / den < 2 ^ (floorLog2 num den + 1) := by
  have hden' : (0 : ℚ) < den := by exact_mod_cast hden
  have hnumlow : (2 : ℚ) ^ num.log2 ≤ num := by exact_mod_cast Nat.log2_self_le (by omega)
  have hnumhigh : (num : ℚ) < 2 ^ (num.log2 + 1) := by exact_mod_cast Nat.lt_log2_self
  have hdenlow : (2 : ℚ) ^ den.log2 ≤ den := by exact_mod_cast Nat.log2_self_le (by omega)
  have hdenhigh : (den : ℚ) < 2 ^ (den.log2 + 1) := by exact_mod_cast Nat.lt_log2_self
  have hsplit : (2 : ℚ) ^ ((num.log2 : Int) - den.log2) * 2 ^ den.log2 = 2 ^ num.log2 := by
    rw [← zpow_natCast, ← zpow_add₀ (by norm_num), Int.sub_add_cancel, zpow_natCast]
  have hpos : (0 : ℚ) < 2 ^ ((num.log2 : Int) - den.log2) := by positivity
  obtain ⟨k, hk⟩ : ∃ k, k = (num.log2 : Int) - den.log2 := ⟨_, rfl⟩
  rw [← hk] at hsplit hpos
  -- the quotient lies within a factor of two of the quotient of the powers
  have hlow : (2 : ℚ) ^ (k - 1) ≤ num / den := by
    rw [zpow_sub₀ (by norm_num), zpow_one, le_div_iff₀ hden']
    have hmul := mul_lt_mul_of_pos_left hdenhigh hpos
    rw [pow_succ] at hmul
    linarith
  have hhigh : (num : ℚ) / den < 2 ^ (k + 1) := by
    rw [zpow_add₀ (by norm_num), zpow_one, div_lt_iff₀ hden']
    have hmul := mul_le_mul_of_nonneg_left hdenlow (le_of_lt hpos)
    rw [pow_succ] at hnumhigh
    linarith
  have hcompare : floorLog2 num den = if (num : ℚ) / den < 2 ^ k then k - 1 else k := by
    unfold floorLog2
    rw [← hk]
    cases k with
    | ofNat n =>
      have hiff : num < den * Nat.pow 2 n ↔ (num : ℚ) / den < 2 ^ (Int.ofNat n) := by
        rw [div_lt_iff₀ hden', Int.ofNat_eq_natCast, zpow_natCast, mul_comm]
        exact_mod_cast Iff.rfl
      simp only [hiff]
    | negSucc n =>
      have hiff : num * Nat.pow 2 (n + 1) < den ↔ (num : ℚ) / den < 2 ^ (Int.negSucc n) := by
        rw [zpow_negSucc, div_lt_iff₀ hden', inv_mul_eq_div, lt_div_iff₀ (by positivity)]
        exact_mod_cast Iff.rfl
      simp only [hiff]
  rw [hcompare]
  split_ifs with hless
  · exact ⟨hlow, by rwa [Int.sub_add_cancel]⟩
  · exact ⟨not_lt.mp hless, hhigh⟩

/-- The nearest integer in numbers. -/
theorem divNearestEven_le (num : Nat) {den : Nat} (hden : 0 < den) :
    2 * (divNearestEven num den : ℚ) ≤ 2 * (num / den) + 1 := by
  have hden' : (0 : ℚ) < den := by exact_mod_cast hden
  have hle : (den : ℚ) * (2 * divNearestEven num den) ≤ 2 * num + den := by
    exact_mod_cast (divNearestEven_bounds hden).2
  have hsame : 2 * ((num : ℚ) / den) + 1 = (2 * num + den) / den := by
    field_simp
  rw [hsame, le_div_iff₀ hden']
  linarith

/-- `num / den` rounded to a multiple of a power of two. -/
def roundedAt (num den : Nat) (q : Int) : Nat :=
  match q with
  | .ofNat n => divNearestEven num (den * Nat.pow 2 n)
  | .negSucc n => divNearestEven (num * Nat.pow 2 (n + 1)) den

theorem nearestMagnitude_eq {num den : Nat} (hnum : num ≠ 0) :
    nearestMagnitude num den =
      let q : Int := max (floorLog2 num den - 52) (-1074)
      min ((q + 1074).toNat * 2 ^ 52 + roundedAt num den q) infinityMagnitude :=
  if_neg hnum

theorem roundedAt_le (num : Nat) {den : Nat} (hden : 0 < den) (q : Int) :
    2 * (roundedAt num den q : ℚ) ≤ 2 * ((num : ℚ) / den * 2 ^ (-q)) + 1 := by
  cases q with
  | ofNat n =>
    have hle := divNearestEven_le num (Nat.mul_pos hden (Nat.two_pow_pos n))
    rw [Nat.cast_mul, Nat.cast_pow, Nat.cast_ofNat, ← div_div] at hle
    rw [Int.ofNat_eq_natCast, zpow_neg, zpow_natCast, ← div_eq_mul_inv]
    exact hle
  | negSucc n =>
    have hle := divNearestEven_le (num * 2 ^ (n + 1)) hden
    rw [Nat.cast_mul, Nat.cast_pow, Nat.cast_ofNat, mul_div_right_comm] at hle
    rw [Int.neg_negSucc, zpow_natCast]
    exact hle

/-- A number of 53 binary digits before the point is rounded to one of that many or to the next power
of two. -/
theorem roundedAt_le_two_pow {num den : Nat} (hden : 0 < den) {q : Int}
    (h : (num : ℚ) / den < 2 ^ (53 + q)) : roundedAt num den q ≤ 2 ^ 53 := by
  have hround := roundedAt_le num hden q
  have hless : (num : ℚ) / den * 2 ^ (-q) < 2 ^ (53 + q) * 2 ^ (-q) :=
    mul_lt_mul_of_pos_right h (by positivity)
  have hexponent : 53 + q + -q = ((53 : Nat) : Int) := by omega
  rw [← zpow_add₀ (by norm_num), hexponent, zpow_natCast] at hless
  have hcast : (roundedAt num den q : ℚ) < 2 ^ 53 + 1 := by linarith
  have hcast' : roundedAt num den q < 2 ^ 53 + 1 := by exact_mod_cast hcast
  omega

/-- At the exponent of the largest double a number below the midpoint above it is not rounded up to
the next power of two. -/
theorem roundedAt_lt_two_pow {num den : Nat} (hden : 0 < den)
    (h : (num : ℚ) / den < (2 ^ 54 - 1) * 2 ^ 970) : roundedAt num den 971 < 2 ^ 53 := by
  have hround := roundedAt_le num hden 971
  have hless := mul_lt_mul_of_pos_right h (show (0 : ℚ) < 2 ^ (-971 : Int) by positivity)
  have hhalf : (2 : ℚ) ^ 970 * 2 ^ (-971 : Int) = 1 / 2 := by
    rw [← zpow_natCast, ← zpow_add₀ (by norm_num)]
    norm_num
  rw [mul_assoc, hhalf] at hless
  have hcast : (roundedAt num den 971 : ℚ) < 2 ^ 53 := by linarith
  exact_mod_cast hcast

theorem floorLog2_le {num den : Nat} (hnum : 0 < num) (hden : 0 < den)
    (h : (num : ℚ) / den < (2 ^ 54 - 1) * 2 ^ 970) : floorLog2 num den ≤ 1023 := by
  obtain ⟨hlow, -⟩ := floorLog2_bounds hnum hden
  by_contra hlarge
  have hmono : (2 : ℚ) ^ (1024 : Int) ≤ 2 ^ floorLog2 num den :=
    zpow_le_zpow_right₀ (by norm_num) (by omega)
  have hlimit : (2 : ℚ) ^ (1024 : Int) = 2 ^ 54 * 2 ^ 970 := by
    rw [← pow_add]
    exact zpow_natCast 2 1024
  have hpos : (0 : ℚ) < 2 ^ 970 := by positivity
  rw [hlimit] at hmono
  generalize (2 : ℚ) ^ 970 = step at h hmono hpos
  linarith

/-- **Rounding stays finite** below the midpoint between the largest double and the power of two
above it. -/
theorem nearestMagnitude_lt_infinity {num den : Nat} (hden : 0 < den)
    (h : (num : ℚ) / den < (2 ^ 54 - 1) * 2 ^ 970) :
    nearestMagnitude num den < infinityMagnitude := by
  have hinfinity : infinityMagnitude = 0x7FF * 2 ^ 52 := rfl
  by_cases hnum : num = 0
  · simp [nearestMagnitude, hnum, hinfinity]
  · obtain ⟨-, hhigh⟩ := floorLog2_bounds (Nat.pos_of_ne_zero hnum) hden
    have hk := floorLog2_le (Nat.pos_of_ne_zero hnum) hden h
    rw [nearestMagnitude_eq hnum]
    simp only
    generalize floorLog2 num den = k at hhigh hk ⊢
    obtain ⟨q, hq⟩ : ∃ q, q = max (k - 52) (-1074) := ⟨_, rfl⟩
    have hmono : (2 : ℚ) ^ (k + 1) ≤ 2 ^ (53 + q) := zpow_le_zpow_right₀ (by norm_num) (by omega)
    have hle := roundedAt_le_two_pow hden (lt_of_lt_of_le hhigh hmono)
    rw [← hq, hinfinity]
    by_cases hlast : q = 971
    · have hlt := roundedAt_lt_two_pow hden h
      rw [hlast]
      omega
    · omega

/-! ### Exact values in the smallest units -/

/-- The value of a magnitude as a multiple of the smallest double. -/
def units (magnitude : Nat) : Nat :=
  if magnitude / 2 ^ 52 = 0 then magnitude
  else (2 ^ 52 + magnitude % 2 ^ 52) * 2 ^ (magnitude / 2 ^ 52 - 1)

theorem units_mono {m n : Nat} (h : m ≤ n) : units m ≤ units n := by
  have hdiv : m / 2 ^ 52 ≤ n / 2 ^ 52 := Nat.div_le_div_right h
  unfold units
  by_cases hsame : m / 2 ^ 52 = n / 2 ^ 52
  · rw [hsame]
    split_ifs
    · exact h
    · exact Nat.mul_le_mul_right _ (by omega)
  · rw [if_neg (show ¬ n / 2 ^ 52 = 0 by omega)]
    split_ifs with hzero
    · have hone : 1 ≤ 2 ^ (n / 2 ^ 52 - 1) := Nat.two_pow_pos _
      have hmore : 2 ^ 52 + n % 2 ^ 52 ≤ (2 ^ 52 + n % 2 ^ 52) * 2 ^ (n / 2 ^ 52 - 1) :=
        Nat.le_mul_of_pos_right _ hone
      omega
    · calc (2 ^ 52 + m % 2 ^ 52) * 2 ^ (m / 2 ^ 52 - 1)
          ≤ 2 ^ 53 * 2 ^ (m / 2 ^ 52 - 1) := Nat.mul_le_mul_right _ (by omega)
        _ = 2 ^ 52 * 2 ^ (m / 2 ^ 52 - 1 + 1) := by rw [Nat.pow_succ]; ring
        _ ≤ 2 ^ 52 * 2 ^ (n / 2 ^ 52 - 1) :=
            Nat.mul_le_mul_left _ (Nat.pow_le_pow_right (by decide) (by omega))
        _ ≤ (2 ^ 52 + n % 2 ^ 52) * 2 ^ (n / 2 ^ 52 - 1) := Nat.mul_le_mul_right _ (by omega)

theorem parts_eq_units (d : Double) :
    (d.parts.1 : ℚ) * 2 ^ d.parts.2 = units d.magnitude * 2 ^ (-1074 : Int) := by
  have hpow : Nat.pow 2 52 = 2 ^ 52 := rfl
  unfold parts units
  simp only [hpow]
  split_ifs with hzero
  · rfl
  · have hexponent : ((d.magnitude / 2 ^ 52 : Nat) : Int) - 1075 =
        ((d.magnitude / 2 ^ 52 - 1 : Nat) : Int) + -1074 := by omega
    rw [hexponent, zpow_add₀ (by norm_num), zpow_natCast, Nat.cast_mul (2 ^ 52 + _), Nat.cast_pow,
      Nat.cast_ofNat, mul_assoc]

/-- **A product is finite** if the exact one is small enough. -/
theorem isFinite_mul {a b : Double}
    (h : units a.magnitude * units b.magnitude < (2 ^ 54 - 1) * 2 ^ 3118) :
    (a.mul b).isFinite := by
  have hproduct : ((a.parts.1 * b.parts.1 : Nat) : ℚ) * 2 ^ (a.parts.2 + b.parts.2) =
      units a.magnitude * units b.magnitude * 2 ^ (-2148 : Int) := by
    rw [zpow_add₀ (by norm_num), Nat.cast_mul, show (-2148 : Int) = -1074 + -1074 from rfl,
      zpow_add₀ (by norm_num)]
    have ha := parts_eq_units a
    have hb := parts_eq_units b
    calc (a.parts.1 : ℚ) * b.parts.1 * (2 ^ a.parts.2 * 2 ^ b.parts.2)
        = (a.parts.1 * 2 ^ a.parts.2) * (b.parts.1 * 2 ^ b.parts.2) := by ring
      _ = _ := by rw [ha, hb]; ring
  obtain ⟨hden, hratio⟩ := scaled_ratio (a.parts.1 * b.parts.1) (a.parts.2 + b.parts.2)
  have hsmall : ((scaled (a.parts.1 * b.parts.1) (a.parts.2 + b.parts.2)).1 : ℚ) /
      (scaled (a.parts.1 * b.parts.1) (a.parts.2 + b.parts.2)).2 < (2 ^ 54 - 1) * 2 ^ 970 := by
    have hcast : (units a.magnitude : ℚ) * units b.magnitude < (2 ^ 54 - 1) * 2 ^ 3118 := by
      have hcast' := (Nat.cast_lt (α := ℚ)).mpr h
      have htop : ((2 ^ 54 - 1 : Nat) : ℚ) = 2 ^ 54 - 1 := by norm_num
      rwa [Nat.cast_mul, Nat.cast_mul, Nat.cast_pow, htop] at hcast'
    have hpos : (0 : ℚ) < 2 ^ (-2148 : Int) := by positivity
    have hscale : (2 : ℚ) ^ 3118 * 2 ^ (-2148 : Int) = 2 ^ 970 := by
      rw [← zpow_natCast, ← zpow_add₀ (by norm_num), ← zpow_natCast]
      rfl
    rw [hratio, hproduct, ← hscale, ← mul_assoc]
    exact mul_lt_mul_of_pos_right hcast hpos
  have hfinite := nearestMagnitude_lt_infinity hden hsmall
  unfold mul ofRatio isFinite
  simp only
  rw [magnitude_ofMagnitude (nearestMagnitude_lt _ _)]
  exact decide_eq_true hfinite

/-! ### The digits of a double and their power of ten -/

/-- The midpoint above the double before the largest one. -/
def lastMidpoint : Nat := (2 ^ 55 - 6) * 2 ^ 969

/-- The midpoint above any double but the largest. -/
theorem midpoint_le {d : Double} (h : d.magnitude + 2 ≤ infinityMagnitude) :
    (4 * (d.parts.1 : ℚ) + 2) * 2 ^ (d.parts.2 - 2) ≤ lastMidpoint := by
  have hbounds : d.parts.1 < 2 ^ 53 ∧ d.parts.2 ≤ 970 ∨
      d.parts.1 ≤ 2 ^ 53 - 2 ∧ d.parts.2 = 971 := by
    have hpow : Nat.pow 2 52 = 2 ^ 52 := rfl
    have hinfinity : infinityMagnitude = 0x7FF * 2 ^ 52 := rfl
    unfold parts
    simp only [hpow]
    split_ifs <;> simp only <;> omega
  have hlast : (lastMidpoint : ℚ) = (2 ^ 55 - 6) * 2 ^ 969 := by
    have htop : ((2 ^ 55 - 6 : Nat) : ℚ) = 2 ^ 55 - 6 := by norm_num
    rw [lastMidpoint, Nat.cast_mul, Nat.cast_pow, htop, Nat.cast_ofNat]
  rw [hlast]
  rcases hbounds with ⟨hm, hq⟩ | ⟨hm, hq⟩
  · have hm' : (d.parts.1 : ℚ) + 1 ≤ 2 ^ 53 := by exact_mod_cast hm
    have hpower : (2 : ℚ) ^ (d.parts.2 - 2) ≤ 2 ^ 968 := by
      rw [← zpow_natCast]
      exact zpow_le_zpow_right₀ (by norm_num) (by omega)
    have hstep : (2 : ℚ) ^ 969 = 2 ^ 968 * 2 := pow_succ 2 968
    have hpos : (0 : ℚ) < 2 ^ 968 := by positivity
    have hmul : (4 * (d.parts.1 : ℚ) + 2) * 2 ^ (d.parts.2 - 2) ≤ (2 ^ 55 - 2) * 2 ^ 968 :=
      mul_le_mul (by linarith) hpower (by positivity) (by norm_num)
    rw [hstep]
    generalize (2 : ℚ) ^ 968 = step at hmul hpos ⊢
    linarith
  · have hm' : (d.parts.1 : ℚ) + 2 ≤ 2 ^ 53 := by
      have hsum : d.parts.1 + 2 ≤ 2 ^ 53 := by omega
      exact_mod_cast hsum
    have hpower : (2 : ℚ) ^ (d.parts.2 - 2) = 2 ^ 969 := by
      rw [hq]
      exact zpow_natCast 2 969
    rw [hpower]
    exact mul_le_mul_of_nonneg_right (by linarith) (by positivity)

/-- The largest number of 17 digits whose product with a power of ten is not above that midpoint. -/
def topSignificand (e : Nat) : Nat := min (lastMidpoint / 10 ^ e) (10 ^ 17)

/-- For each power of ten that is a double the product with that number is finite. -/
theorem units_topSignificand : ∀ e < 309,
    units (nearestMagnitude (topSignificand e) 1) * units (nearestMagnitude (10 ^ e) 1) <
      (2 ^ 54 - 1) * 2 ^ 3118 := by
  decide +kernel

theorem magnitude_ofInt (n : Nat) : (ofInt n).magnitude = nearestMagnitude n 1 := by
  unfold ofInt ofRatio
  rw [magnitude_ofMagnitude (nearestMagnitude_lt _ _), Int.natAbs_natCast]

/-- Equal magnitudes have equal digits. -/
theorem decimal_congr {d d' : Double} (h : d.magnitude = d'.magnitude) :
    Shortest.decimal d = Shortest.decimal d' := by
  have hparts : d.parts = d'.parts := by
    unfold parts
    rw [h]
  unfold Shortest.decimal Shortest.interval
  rw [hparts]

end Double

namespace Json.Numeral

open Double

/-- A finite product with a power of ten is one step. -/
theorem isSome_scale_of_isFinite {fuel : Nat} {d : Double} {e : Nat} (he : e ≤ largestPower)
    (h : (d.mul (powerOfTen e)).isFinite) : (scale (fuel + 1) d e).isSome := by
  unfold scale
  rw [Int.natAbs_natCast, if_pos he, if_pos (by omega)]
  simp only
  rw [if_pos h]
  rfl

/-- **The digits of a double and their power of ten** have a finite product. -/
theorem isSome_scale_decimal {d : Double} (hfinite : d.isFinite) (hzero : d.isZero = false)
    (he : 0 ≤ (Shortest.decimal d).2) :
    (Shortest.decimal d).2 ≤ largestPower ∧
      (scale scaleSteps (ofInt (Shortest.decimal d).1) (Shortest.decimal d).2).isSome := by
  have hmagnitude : d.magnitude < infinityMagnitude := of_decide_eq_true hfinite
  by_cases hlargest : d.magnitude + 1 = infinityMagnitude
  · -- the last of its 17 digits is rounded up by more than the interval leaves room for
    let largest := ofMagnitude false (infinityMagnitude - 1)
    have hsame : d.magnitude = largest.magnitude := by
      have hread : largest.magnitude = infinityMagnitude - 1 := by decide +kernel
      omega
    rw [decimal_congr hsame]
    decide +kernel
  · obtain ⟨hn, hcount, hle⟩ := Shortest.decimal_bounds hfinite hzero
    generalize Shortest.decimal d = decimal at he hn hcount hle ⊢
    obtain ⟨n, e⟩ := decimal
    obtain ⟨e, rfl⟩ := Int.eq_ofNat_of_zero_le he
    simp only at hn hcount hle ⊢
    have hless : n * 10 ^ e ≤ lastMidpoint := by
      have hcast := le_trans hle (midpoint_le (by omega))
      rw [zpow_natCast] at hcast
      exact_mod_cast hcast
    have hpower : e < largestPower + 1 := by
      by_contra hlarge
      have hmono : 10 ^ (largestPower + 1) ≤ 10 ^ e :=
        Nat.pow_le_pow_right (by decide) (Nat.not_lt.mp hlarge)
      have hone : 10 ^ e ≤ n * 10 ^ e := Nat.le_mul_of_pos_left _ (Nat.pos_of_ne_zero hn)
      have hlimit : lastMidpoint < 10 ^ (largestPower + 1) := by decide +kernel
      exact absurd (Nat.le_trans hmono (Nat.le_trans hone hless)) (Nat.not_le.mpr hlimit)
    have htop : n ≤ topSignificand e :=
      Nat.le_min.mpr ⟨(Nat.le_div_iff_mul_le (Nat.pow_pos (by decide))).mpr hless, hcount⟩
    refine ⟨by omega, isSome_scale_of_isFinite (by omega) (isFinite_mul ?_)⟩
    have hten : (powerOfTen e).magnitude = nearestMagnitude (10 ^ e) 1 :=
      magnitude_ofMagnitude (nearestMagnitude_lt _ _) _
    rw [magnitude_ofInt, hten]
    exact Nat.lt_of_le_of_lt (Nat.mul_le_mul_right _ (units_mono (nearestMagnitude_mono htop)))
      (units_topSignificand e hpower)

end Json.Numeral

end FlowGraph
