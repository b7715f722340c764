import FlowGraph.Number.Shortest
import FlowGraph.Proofs.Number.Nearest
import Mathlib.Algebra.Order.Field.Power
import Mathlib.Data.Rat.Cast.Order
import Mathlib.Tactic.FieldSimp
import Mathlib.Tactic.Linarith
import Mathlib.Tactic.NormNum
import Mathlib.Tactic.Positivity

/-! # The shortest decimal of a double

The search goes from coarse grids of decimals to fine ones and takes the first that has a point
between the midpoints around the double. It begins above the double and makes 17 steps, and the last
grid is finer than the interval is wide; so it never ends without a point.

* `floorLog10_bounds` is where the search begins.
* `candidate_bounds` and `isSome_candidate`: what a point of a grid is, and when there is one.
  `search_floorLog10` is the search.
* `decimal_bounds`: the digits of a double are a number from 1 to `10 ^ 17`, and the decimal is at
  most the midpoint above the double. -/

namespace FlowGraph

/-! ### Exact values -/

namespace Double

variable {d : Double}

/-- `m * 2 ^ q` over its denominator. -/
theorem scaled_ratio (m : Nat) (q : Int) :
    0 < (scaled m q).2 ∧ ((scaled m q).1 : ℚ) / (scaled m q).2 = m * 2 ^ q := by
  cases q with
  | ofNat n =>
    refine ⟨Nat.one_pos, ?_⟩
    simp [scaled]
  | negSucc n =>
    refine ⟨Nat.two_pow_pos _, ?_⟩
    simp [scaled, zpow_negSucc, div_eq_mul_inv]

/-- The significand of a finite double has 53 bits, and its exponent is within limits. -/
theorem parts_bounds (h : d.isFinite) :
    d.parts.1 < 2 ^ 53 ∧ -1074 ≤ d.parts.2 ∧ d.parts.2 ≤ 971 ∧
      (d.isZero = false → 0 < d.parts.1) := by
  have hlt : d.magnitude < 0x7FF * 2 ^ 52 := of_decide_eq_true h
  have hpow : Nat.pow 2 52 = 2 ^ 52 := rfl
  unfold parts isZero
  simp only [hpow, beq_eq_false_iff_ne]
  split_ifs with hfield
  · simp only
    omega
  · simp only
    omega

end Double

namespace Shortest

/-! ### Powers of ten -/

/-- A power of ten as the numerator and the denominator of its inverse. -/
def upDown : Int → Nat × Nat
  | .ofNat n => (1, Nat.pow 10 n)
  | .negSucc n => (Nat.pow 10 (n + 1), 1)

theorem upDown_ratio (e : Int) :
    0 < (upDown e).1 ∧ 0 < (upDown e).2 ∧ ((upDown e).2 : ℚ) / (upDown e).1 = 10 ^ e := by
  cases e with
  | ofNat n =>
    refine ⟨Nat.one_pos, Nat.pow_pos (by decide), ?_⟩
    simp [upDown]
  | negSucc n =>
    refine ⟨Nat.pow_pos (by decide), Nat.one_pos, ?_⟩
    simp [upDown, zpow_negSucc]

theorem digitCount_bounds {n : Nat} (hn : n ≠ 0) :
    1 ≤ digitCount n ∧ 10 ^ (digitCount n - 1) ≤ n ∧ n < 10 ^ digitCount n := by
  have hpos : 0 < digitCount n := List.length_pos_iff.mpr Nat.toDigits_ne_nil
  refine ⟨hpos, ?_, (Nat.length_toDigits_le_iff (by decide) hpos).mp (Nat.le_refl _)⟩
  by_contra hlt
  by_cases hone : digitCount n = 1
  · rw [hone] at hlt
    omega
  · have hless := (Nat.length_toDigits_le_iff (by decide) (by omega)).mpr (not_le.mp hlt)
    change digitCount n ≤ digitCount n - 1 at hless
    omega

theorem floorLog10_bounds_of_le {num den : Nat} (hden : 0 < den) (hle : den ≤ num) :
    (10 : ℚ) ^ floorLog10 num den ≤ (num : ℚ) / den ∧
      (num : ℚ) / den < 10 ^ (floorLog10 num den + 1) := by
  have hden' : (0 : ℚ) < den := by exact_mod_cast hden
  have hone : num / den ≠ 0 := Nat.ne_of_gt (Nat.div_pos hle hden)
  obtain ⟨hcount, hlow, hhigh⟩ := digitCount_bounds hone
  unfold floorLog10
  rw [if_pos hle]
  generalize digitCount (num / den) = k at hcount hlow hhigh ⊢
  obtain ⟨k, rfl⟩ : ∃ j, k = j + 1 := ⟨k - 1, by omega⟩
  have hbelow : 10 ^ k * den ≤ num := (Nat.le_div_iff_mul_le hden).mp hlow
  have habove : num < 10 ^ (k + 1) * den := (Nat.div_lt_iff_lt_mul hden).mp hhigh
  have hexponent : ((k + 1 : Nat) : Int) - 1 = k := by omega
  rw [hexponent, zpow_natCast, le_div_iff₀ hden', div_lt_iff₀ hden', ← Nat.cast_succ, zpow_natCast]
  exact ⟨by exact_mod_cast hbelow, by exact_mod_cast habove⟩

theorem floorLog10_bounds_of_lt {num den : Nat} (hnum : 0 < num) (hlt : num < den) :
    (10 : ℚ) ^ floorLog10 num den ≤ (num : ℚ) / den ∧
      (num : ℚ) / den < 10 ^ (floorLog10 num den + 1) := by
  have hnum' : (0 : ℚ) < num := by exact_mod_cast hnum
  have hden' : (0 : ℚ) < den := lt_trans hnum' (by exact_mod_cast hlt)
  have hone : den / num ≠ 0 := Nat.ne_of_gt (Nat.div_pos (Nat.le_of_lt hlt) hnum)
  obtain ⟨hcount, hlow, hhigh⟩ := digitCount_bounds hone
  unfold floorLog10
  rw [if_neg (Nat.not_le.mpr hlt)]
  simp only
  generalize digitCount (den / num) = k at hcount hlow hhigh ⊢
  obtain ⟨k, rfl⟩ : ∃ j, k = j + 1 := ⟨k - 1, by omega⟩
  have hbelow : 10 ^ k * num ≤ den := (Nat.le_div_iff_mul_le hnum).mp hlow
  have habove : den < 10 ^ (k + 1) * num := (Nat.div_lt_iff_lt_mul hnum).mp hhigh
  have hinverse : ∀ j : Nat, (10 : ℚ) ^ (-(j : Int)) = 1 / 10 ^ j := by
    intro j
    rw [zpow_neg, zpow_natCast, one_div]
  have hexponent : ((k + 1 : Nat) : Int) - 1 = k := by omega
  rw [hexponent, Nat.add_sub_cancel, Nat.mul_comm]
  by_cases heq : Nat.pow 10 k * num ≥ den
  · have hsame : (10 : ℚ) ^ k * num = den := by
      have hsame' : 10 ^ k * num = den := Nat.le_antisymm hbelow heq
      exact_mod_cast hsame'
    have hvalue : (num : ℚ) / den = 1 / 10 ^ k := by
      rw [← hsame]
      field_simp
    rw [if_pos heq, hvalue, hinverse]
    refine ⟨le_refl _, ?_⟩
    rw [zpow_add₀ (by norm_num), hinverse, zpow_one]
    have hpos : (0 : ℚ) < 1 / 10 ^ k := by positivity
    linarith
  · have hless : (10 : ℚ) ^ k * num < den := by
      have hless' : 10 ^ k * num < den := not_le.mp heq
      exact_mod_cast hless'
    have habove' : (den : ℚ) < 10 ^ (k + 1) * num := by exact_mod_cast habove
    have hnext : -((k + 1 : Nat) : Int) + 1 = -(k : Int) := by omega
    rw [if_neg heq, hnext, hinverse, hinverse, div_le_div_iff₀ (by positivity) hden',
      div_lt_div_iff₀ hden' (by positivity)]
    constructor <;> linarith

/-- **The power of ten** at a number. -/
theorem floorLog10_bounds {num den : Nat} (hnum : 0 < num) (hden : 0 < den) :
    (10 : ℚ) ^ floorLog10 num den ≤ (num : ℚ) / den ∧
      (num : ℚ) / den < 10 ^ (floorLog10 num den + 1) := by
  by_cases hle : den ≤ num
  · exact floorLog10_bounds_of_le hden hle
  · exact floorLog10_bounds_of_lt hnum (Nat.not_le.mp hle)

/-! ### Grids -/

namespace Interval

variable {i : Interval} {e : Int} {n : Nat}

/-- Whether a number is one that reads back as the double. -/
def Holds (i : Interval) (x : ℚ) : Prop :=
  if i.closed then i.low / i.den ≤ x ∧ x ≤ i.high / i.den
  else i.low / i.den < x ∧ x < i.high / i.den

theorem contains_iff (hden : 0 < i.den) {num den : Nat} (hpos : 0 < den) :
    i.contains num den ↔ i.Holds ((num : ℚ) / den) := by
  have hden' : (0 : ℚ) < i.den := by exact_mod_cast hden
  have hpos' : (0 : ℚ) < den := by exact_mod_cast hpos
  unfold contains Holds
  split_ifs
  · rw [Bool.and_eq_true, decide_eq_true_eq, decide_eq_true_eq, div_le_div_iff₀ hden' hpos',
      div_le_div_iff₀ hpos' hden']
    exact_mod_cast Iff.rfl
  · rw [Bool.and_eq_true, decide_eq_true_eq, decide_eq_true_eq, div_lt_div_iff₀ hden' hpos',
      div_lt_div_iff₀ hpos' hden']
    exact_mod_cast Iff.rfl

theorem Holds.le {x : ℚ} (h : i.Holds x) : (i.low : ℚ) / i.den ≤ x ∧ x ≤ i.high / i.den := by
  unfold Holds at h
  split_ifs at h
  · exact h
  · exact ⟨le_of_lt h.1, le_of_lt h.2⟩

/-- **One of two neighbours on a grid is in the interval**, if that is wider than the grid. -/
theorem holds_or_holds {x g : ℚ} (hwide : g < (i.high : ℚ) / i.den - i.low / i.den)
    (hlow : (i.low : ℚ) / i.den < i.value / i.den) (hhigh : (i.value : ℚ) / i.den < i.high / i.den)
    (hx : x ≤ i.value / i.den) (hx' : (i.value : ℚ) / i.den < x + g) :
    i.Holds x ∨ i.Holds (x + g) := by
  by_contra hnone
  rw [not_or] at hnone
  obtain ⟨hfirst, hsecond⟩ := hnone
  unfold Holds at hfirst hsecond
  split_ifs at hfirst hsecond
  · have hbelow : x < i.low / i.den := by
      by_contra hge
      exact hfirst ⟨not_lt.mp hge, le_of_lt (lt_of_le_of_lt hx hhigh)⟩
    have habove : i.high / i.den < x + g := by
      by_contra hge
      exact hsecond ⟨le_of_lt (lt_trans hlow hx'), not_lt.mp hge⟩
    linarith
  · have hbelow : x ≤ i.low / i.den := by
      by_contra hgt
      exact hfirst ⟨not_le.mp hgt, lt_of_le_of_lt hx hhigh⟩
    have habove : i.high / i.den ≤ x + g := by
      by_contra hlt
      exact hsecond ⟨lt_trans hlow hx', not_le.mp hlt⟩
    linarith

end Interval

section

variable {i : Interval} {e : Int} {n : Nat}

/-- The position on a grid at or before the double. -/
def below (i : Interval) (e : Int) : Nat := i.value * (upDown e).1 / (i.den * (upDown e).2)

/-- The grid points around the double. -/
theorem below_bounds (hden : 0 < i.den) (e : Int) :
    (below i e : ℚ) * 10 ^ e ≤ i.value / i.den ∧
      (i.value : ℚ) / i.den < below i e * 10 ^ e + 10 ^ e := by
  obtain ⟨hup, hdown, hratio⟩ := upDown_ratio e
  unfold below
  generalize (upDown e).1 = up at hup hratio ⊢
  generalize (upDown e).2 = down at hdown hratio ⊢
  have hdiv := Nat.div_add_mod (i.value * up) (i.den * down)
  have hmod := Nat.mod_lt (i.value * up) (Nat.mul_pos hden hdown)
  generalize i.value * up / (i.den * down) = q at hdiv ⊢
  have hless : i.value * up < (i.den * down) * (q + 1) := by
    rw [Nat.mul_add, Nat.mul_one]
    omega
  have hmore : (i.den * down) * q ≤ i.value * up := by omega
  have hden' : (0 : ℚ) < i.den := by exact_mod_cast hden
  have hup' : (0 : ℚ) < up := by exact_mod_cast hup
  rw [← hratio]
  constructor
  · rw [← mul_div_assoc, div_le_div_iff₀ hup' hden']
    have hcast : (i.den : ℚ) * down * q ≤ i.value * up := by exact_mod_cast hmore
    linarith
  · rw [← mul_div_assoc, ← add_div, div_lt_div_iff₀ hden' hup']
    have hcast : (i.value : ℚ) * up < i.den * down * (q + 1) := by exact_mod_cast hless
    linarith

/-- The number at a position of a grid. -/
theorem contains_grid (hden : 0 < i.den) (n : Nat) (e : Int) :
    i.contains (n * (upDown e).2) (upDown e).1 ↔ i.Holds (n * 10 ^ e) := by
  obtain ⟨hup, -, hratio⟩ := upDown_ratio e
  rw [Interval.contains_iff hden hup, ← hratio, Nat.cast_mul, mul_div_assoc]

/-- A grid gives the position at or before the double, or the one after it. -/
theorem candidate_eq (hden : 0 < i.den) (e : Int) :
    (∀ n, candidate i e = some n → i.Holds (n * 10 ^ e) ∧ (n = below i e ∨ n = below i e + 1)) ∧
      (candidate i e = none →
        ¬ i.Holds (below i e * 10 ^ e) ∧ ¬ i.Holds ((below i e + 1 : Nat) * 10 ^ e)) := by
  have hlow := contains_grid hden (below i e) e
  have hhigh := contains_grid hden (below i e + 1) e
  have hcandidate : candidate i e =
      if i.contains (below i e * (upDown e).2) (upDown e).1 &&
          i.contains ((below i e + 1) * (upDown e).2) (upDown e).1 then
        if 2 * (i.value * (upDown e).1 % (i.den * (upDown e).2)) < i.den * (upDown e).2 then
          some (below i e)
        else if i.den * (upDown e).2 < 2 * (i.value * (upDown e).1 % (i.den * (upDown e).2)) then
          some (below i e + 1)
        else if below i e % 2 = 0 then some (below i e) else some (below i e + 1)
      else if i.contains (below i e * (upDown e).2) (upDown e).1 then some (below i e)
      else if i.contains ((below i e + 1) * (upDown e).2) (upDown e).1 then some (below i e + 1)
      else none := by
    cases e <;> rfl
  rw [hcandidate]
  constructor
  · intro n hn
    split_ifs at hn with hboth <;> cases hn
    · exact ⟨hlow.mp (Bool.and_eq_true _ _ ▸ hboth).1, Or.inl rfl⟩
    · exact ⟨hhigh.mp (Bool.and_eq_true _ _ ▸ hboth).2, Or.inr rfl⟩
    · exact ⟨hlow.mp (Bool.and_eq_true _ _ ▸ hboth).1, Or.inl rfl⟩
    · exact ⟨hhigh.mp (Bool.and_eq_true _ _ ▸ hboth).2, Or.inr rfl⟩
    · exact ⟨hlow.mp ‹_›, Or.inl rfl⟩
    · exact ⟨hhigh.mp ‹_›, Or.inr rfl⟩
  · intro hnone
    split_ifs at hnone
    rename_i hfirst hsecond
    exact ⟨fun h => hfirst (hlow.mpr h), fun h => hsecond (hhigh.mpr h)⟩

/-- **A point of a grid** is in the interval, and no more than a step above the double. -/
theorem candidate_bounds (hden : 0 < i.den) (h : candidate i e = some n) :
    i.Holds (n * 10 ^ e) ∧ (n : ℚ) * 10 ^ e ≤ i.value / i.den + 10 ^ e := by
  obtain ⟨hholds, hposition⟩ := (candidate_eq hden e).1 n h
  obtain ⟨hbelow, -⟩ := below_bounds hden e
  have hpos : (0 : ℚ) < 10 ^ e := by positivity
  refine ⟨hholds, ?_⟩
  rcases hposition with rfl | rfl
  · linarith
  · rw [Nat.cast_add, Nat.cast_one, add_mul, one_mul]
    linarith

/-- **A fine grid has a point** in the interval. -/
theorem isSome_candidate (hden : 0 < i.den)
    (hwide : (10 : ℚ) ^ e < (i.high : ℚ) / i.den - i.low / i.den)
    (hlow : (i.low : ℚ) / i.den < i.value / i.den)
    (hhigh : (i.value : ℚ) / i.den < i.high / i.den) : (candidate i e).isSome := by
  by_contra hnone
  obtain ⟨hfirst, hsecond⟩ := (candidate_eq hden e).2 (by simpa using hnone)
  obtain ⟨hbelow, habove⟩ := below_bounds hden e
  rw [Nat.cast_add, Nat.cast_one, add_mul, one_mul] at hsecond
  rcases Interval.holds_or_holds hwide hlow hhigh hbelow habove with h | h
  · exact hfirst h
  · exact hsecond h

/-! ### The search -/

/-- The search ends with a point, if the last grid has one. -/
theorem search_spec {fuel : Nat} (h : (candidate i (e - fuel)).isSome) :
    candidate i (search i fuel e).2 = some (search i fuel e).1 ∧
      e - fuel ≤ (search i fuel e).2 ∧ (search i fuel e).2 ≤ e := by
  induction fuel generalizing e with
  | zero =>
    obtain ⟨n, hn⟩ := Option.isSome_iff_exists.mp h
    rw [Nat.cast_zero, Int.sub_zero] at hn
    simp [search, hn]
  | succ fuel ih =>
    unfold search
    cases hfirst : candidate i e with
    | some n =>
      refine ⟨hfirst, ?_, Int.le_refl _⟩
      simp only
      omega
    | none =>
      have hnext : e - (fuel + 1 : Nat) = e - 1 - fuel := by omega
      rw [hnext] at h
      obtain ⟨hfound, hlast, hstart⟩ := ih h
      refine ⟨hfound, ?_, ?_⟩ <;> simp only <;> omega

/-- **The search from the power of ten at the double** finds a point within 17 steps, as long as the
interval is not too narrow for the size of the double. -/
theorem search_floorLog10 (hden : 0 < i.den) (hvalue : 0 < i.value)
    (hlow : (i.low : ℚ) / i.den < i.value / i.den) (hhigh : (i.value : ℚ) / i.den < i.high / i.den)
    (hwide : (i.value : ℚ) / i.den < 10 ^ 16 * (i.high / i.den - i.low / i.den)) :
    ∃ n e, search i 17 (floorLog10 i.value i.den + 1) = (n, e) ∧ candidate i e = some n ∧
      (i.value : ℚ) / i.den < 10 ^ e * 10 ^ 17 := by
  obtain ⟨hstart, hnext⟩ := floorLog10_bounds hvalue hden
  generalize floorLog10 i.value i.den = log at hstart hnext ⊢
  have hsteps : ∀ k : Nat, (10 : ℚ) ^ (log + 1 - (17 : Nat)) * 10 ^ k =
      10 ^ (log + 1 - (17 : Nat) + k) := by
    intro k
    rw [zpow_add₀ (by norm_num), zpow_natCast]
  have hscale : (10 : ℚ) ^ (log + 1 - (17 : Nat)) * 10 ^ 16 = 10 ^ log := by
    rw [hsteps 16]
    congr 1
    omega
  have hrange : (10 : ℚ) ^ (log + 1 - (17 : Nat)) * 10 ^ 17 = 10 ^ (log + 1) := by
    rw [hsteps 17, Int.sub_add_cancel]
  -- the last grid is finer than the interval is wide
  have hlast : (candidate i (log + 1 - (17 : Nat))).isSome := by
    refine isSome_candidate hden ?_ hlow hhigh
    have hscaled : 10 ^ 16 * (10 : ℚ) ^ (log + 1 - (17 : Nat)) <
        10 ^ 16 * (i.high / i.den - i.low / i.den) := by
      rw [mul_comm, hscale]
      exact lt_of_le_of_lt hstart hwide
    exact lt_of_mul_lt_mul_left hscaled (by norm_num)
  obtain ⟨hfound, hend, -⟩ := search_spec hlast
  refine ⟨_, _, rfl, hfound, lt_of_lt_of_le hnext ?_⟩
  -- no grid of the search is finer than the last one
  rw [← hrange]
  exact mul_le_mul_of_nonneg_right (zpow_le_zpow_right₀ (by norm_num) hend) (by norm_num)

/-- Without the zeros at its end a number stands for the same decimal. -/
theorem trim_spec (fuel : Nat) {n : Nat} {e : Int} (hn : n ≠ 0) :
    (trim fuel (n, e)).1 ≠ 0 ∧ (trim fuel (n, e)).1 ≤ n ∧
      ((trim fuel (n, e)).1 : ℚ) * 10 ^ (trim fuel (n, e)).2 = n * 10 ^ e := by
  induction fuel generalizing n e with
  | zero => exact ⟨hn, Nat.le_refl _, rfl⟩
  | succ fuel ih =>
    unfold trim
    split_ifs with h
    · obtain ⟨hne, hle, heq⟩ := ih (n := n / 10) (e := e + 1) (by omega)
      refine ⟨hne, Nat.le_trans hle (Nat.div_le_self _ _), heq.trans ?_⟩
      have hten : (n : ℚ) = (n / 10 : Nat) * 10 := by
        have hwhole : n = n / 10 * 10 := by omega
        exact_mod_cast hwhole
      rw [zpow_add₀ (by norm_num), zpow_one, hten]
      ring
    · exact ⟨hn, Nat.le_refl _, rfl⟩

end

/-! ### The decimal of a double -/

section

variable {d : Double}

/-- The interval of a double in numbers: the double between the midpoints to its neighbours. -/
theorem interval_ratio (d : Double) :
    let m : ℚ := d.parts.1
    let half : ℚ := 2 ^ (d.parts.2 - 2)
    0 < (interval d).den ∧ ((interval d).value : ℚ) / (interval d).den = 4 * m * half ∧
      ((interval d).high : ℚ) / (interval d).den = (4 * m + 2) * half := by
  obtain ⟨hden, hratio⟩ := Double.scaled_ratio 1 (d.parts.2 - 2)
  rw [Nat.cast_one, one_mul] at hratio
  unfold interval
  simp only
  refine ⟨hden, ?_, ?_⟩
  · rw [← hratio]
    push_cast
    ring
  · rw [← hratio]
    push_cast
    ring

/-- The lower midpoint is closer to a double that has a neighbour of half the distance. -/
theorem low_interval (d : Double) (hpos : 0 < d.parts.1) :
    let m : ℚ := d.parts.1
    let half : ℚ := 2 ^ (d.parts.2 - 2)
    ((interval d).low : ℚ) / (interval d).den = (4 * m - 2) * half ∨
      d.parts.1 = 2 ^ 52 ∧ ((interval d).low : ℚ) / (interval d).den = (4 * m - 1) * half := by
  obtain ⟨-, hratio⟩ := Double.scaled_ratio 1 (d.parts.2 - 2)
  rw [Nat.cast_one, one_mul] at hratio
  unfold interval
  simp only
  split_ifs with hpower
  · refine Or.inr ⟨hpower.1, ?_⟩
    rw [← hratio, Nat.cast_mul, Nat.cast_sub (by omega)]
    push_cast
    ring
  · left
    rw [← hratio, Nat.cast_mul, Nat.cast_sub (by omega)]
    push_cast
    ring

/-- **The interval of a double** lies above zero, with the double inside, and is not narrower than
the significand of 53 bits allows. -/
theorem interval_bounds (hfinite : d.isFinite) (hzero : d.isZero = false) :
    let i := interval d
    (0 : ℚ) < i.low / i.den ∧ (i.low : ℚ) / i.den < i.value / i.den ∧
      (i.value : ℚ) / i.den < i.high / i.den ∧
      (i.value : ℚ) / i.den < 10 ^ 16 * (i.high / i.den - i.low / i.den) := by
  obtain ⟨hsmall, -, -, hpos⟩ := Double.parts_bounds hfinite
  obtain ⟨-, hvalue, hhigh⟩ := interval_ratio d
  have hlow := low_interval d (hpos hzero)
  have hhalf : (0 : ℚ) < 2 ^ (d.parts.2 - 2) := by positivity
  have hm1 : (1 : ℚ) ≤ d.parts.1 := by exact_mod_cast hpos hzero
  have hm53 : (d.parts.1 : ℚ) < 2 ^ 53 := by exact_mod_cast hsmall
  have hpower : d.parts.1 = 2 ^ 52 → (d.parts.1 : ℚ) = 2 ^ 52 := by
    intro h
    exact_mod_cast h
  simp only at hvalue hhigh hlow ⊢
  rw [hvalue, hhigh]
  generalize (2 : ℚ) ^ (d.parts.2 - 2) = half at hlow hhalf ⊢
  generalize (d.parts.1 : ℚ) = m at hlow hm1 hm53 hpower ⊢
  have habove : 4 * m * half < (4 * m + 2) * half := mul_lt_mul_of_pos_right (by linarith) hhalf
  rcases hlow with hlow | ⟨hm52, hlow⟩
  · rw [hlow, ← sub_mul, ← mul_assoc]
    refine ⟨mul_pos (by linarith) hhalf, mul_lt_mul_of_pos_right (by linarith) hhalf, habove, ?_⟩
    exact mul_lt_mul_of_pos_right (by norm_num at hm53 ⊢; linarith) hhalf
  · rw [hpower hm52] at hlow habove ⊢
    rw [hlow, ← sub_mul, ← mul_assoc]
    exact ⟨mul_pos (by norm_num) hhalf, mul_lt_mul_of_pos_right (by norm_num) hhalf, habove,
      mul_lt_mul_of_pos_right (by norm_num) hhalf⟩

/-- **The decimal of a double**: its digits are a number from 1 to `10 ^ 17`, and it lies no higher
than the midpoint above the double. -/
theorem decimal_bounds (hfinite : d.isFinite) (hzero : d.isZero = false) :
    (decimal d).1 ≠ 0 ∧ (decimal d).1 ≤ 10 ^ 17 ∧
      ((decimal d).1 : ℚ) * 10 ^ (decimal d).2 ≤ (4 * d.parts.1 + 2) * 2 ^ (d.parts.2 - 2) := by
  obtain ⟨hden, -, hhigh⟩ := interval_ratio d
  obtain ⟨hpos, hbelow, habove, hwide⟩ := interval_bounds hfinite hzero
  have hvalue : 0 < (interval d).value := by
    by_contra hnone
    have hnothing : (interval d).value = 0 := by omega
    rw [hnothing, Nat.cast_zero, zero_div] at hbelow
    exact absurd (lt_trans hpos hbelow) (lt_irrefl _)
  obtain ⟨n, e, hsearch, hfound, hcoarse⟩ := search_floorLog10 hden hvalue hbelow habove hwide
  obtain ⟨hholds, hnear⟩ := candidate_bounds hden hfound
  obtain ⟨hleast, hmost⟩ := hholds.le
  have hn : n ≠ 0 := by
    rintro rfl
    rw [Nat.cast_zero, zero_mul] at hleast
    exact absurd (lt_of_lt_of_le hpos hleast) (lt_irrefl _)
  have hdecimal : decimal d = trim 20 (n, e) := congrArg (trim 20) hsearch
  obtain ⟨hne, hle, heq⟩ := trim_spec 20 (e := e) hn
  rw [hdecimal]
  refine ⟨hne, Nat.le_trans hle ?_, by rw [heq, ← hhigh]; exact hmost⟩
  have hbound : (n : ℚ) * 10 ^ e < (10 ^ 17 + 1) * 10 ^ e := by
    rw [add_mul, one_mul, mul_comm (10 ^ 17 : ℚ)]
    linarith
  have hcount : (n : ℚ) < 10 ^ 17 + 1 := lt_of_mul_lt_mul_right hbound (by positivity)
  have hcount' : n < 10 ^ 17 + 1 := by exact_mod_cast hcount
  omega

end

end Shortest

end FlowGraph
