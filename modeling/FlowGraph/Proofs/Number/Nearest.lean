import FlowGraph.Number.Double
import Mathlib.Tactic.Ring
import Mathlib.Tactic.SplitIfs

/-! # The double nearest to an integer

An integer is brought to a significand of 53 bits (`significand`), which loses nothing below
`2 ^ 53`. Above, integers share their nearest double with others close by, but the order of two
integers is never turned around.

* `nearestMagnitude_natural` gives the magnitude by the significand and the highest bit;
  `nearestMagnitude_mono` and `nearestMagnitude_strictMono` are its laws of order.
* `sub_le_of_nearestMagnitude_eq` bounds how far two integers with one magnitude lie apart.
* `key_ofInt` brings these to signed integers: `key_ofInt_mono`, `key_ofInt_strictMono` and
  `natAbs_sub_le_of_key_eq`. Two integers have one double exactly if their doubles are in no order
  (`ofInt_inj`). -/

namespace FlowGraph

/-! ### Division to the nearest -/

section

variable {num num' : Nat}

/-- **The nearest integer** is at most half of the divisor away. -/
theorem divNearestEven_bounds {den : Nat} (hden : 0 < den) :
    2 * num ≤ den * (2 * divNearestEven num den + 1) ∧
      den * (2 * divNearestEven num den) ≤ 2 * num + den := by
  have hdiv := Nat.div_add_mod num den
  have hmod := Nat.mod_lt num hden
  have hmore : den * (2 * (num / den + 1)) = 2 * (den * (num / den)) + 2 * den := by ring
  have hsame : den * (2 * (num / den)) = 2 * (den * (num / den)) := by ring
  simp only [divNearestEven, Nat.mul_add den, Nat.mul_one]
  split_ifs <;> omega

theorem divNearestEven_mono (den : Nat) (h : num ≤ num') :
    divNearestEven num den ≤ divNearestEven num' den := by
  have hdiv : num / den ≤ num' / den := Nat.div_le_div_right h
  have hnum := Nat.div_add_mod num den
  have hnum' := Nat.div_add_mod num' den
  by_cases hq : num / den = num' / den
  · rw [hq] at hnum
    unfold divNearestEven
    simp only [hq]
    split_ifs <;> omega
  · have hless : divNearestEven num den ≤ num / den + 1 := by
      unfold divNearestEven
      simp only
      split_ifs <;> omega
    have hmore : num' / den ≤ divNearestEven num' den := by
      unfold divNearestEven
      simp only
      split_ifs <;> omega
    omega

@[simp] theorem divNearestEven_one (num : Nat) : divNearestEven num 1 = num := by
  simp [divNearestEven, Nat.mod_one]

end

namespace Double

/-! ### Significands -/

/-- The significand of 53 bits that an integer is rounded to. -/
def significand (n : Nat) : Nat :=
  if 52 ≤ n.log2 then divNearestEven n (2 ^ (n.log2 - 52)) else n * 2 ^ (52 - n.log2)

section

variable {m n : Nat}

theorem floorLog2_natural (hn : n ≠ 0) : floorLog2 n 1 = n.log2 := by
  have hle : 2 ^ n.log2 ≤ n := Nat.log2_self_le hn
  have hone : Nat.log2 1 = 0 := by decide
  unfold floorLog2
  simp only [hone, Nat.cast_zero, Int.sub_zero]
  exact if_neg (by simpa using hle)

/-- **The magnitude of the nearest double** by the highest bit and the significand. -/
theorem nearestMagnitude_natural (hn : n ≠ 0) :
    nearestMagnitude n 1 = min ((n.log2 + 1022) * 2 ^ 52 + significand n) infinityMagnitude := by
  have hplace : max ((n.log2 : Int) - 52) (-1074) = (n.log2 : Int) - 52 := by omega
  have hfield : ((n.log2 : Int) - 52 + 1074).toNat = n.log2 + 1022 := by omega
  unfold nearestMagnitude significand
  simp only [hn, if_false, floorLog2_natural hn, hplace, hfield]
  by_cases hlog : 52 ≤ n.log2
  · have hcast : (n.log2 : Int) - 52 = .ofNat (n.log2 - 52) := by
      rw [Int.ofNat_eq_natCast]
      omega
    rw [hcast, if_pos hlog]
    simp
  · have hcast : (n.log2 : Int) - 52 = .negSucc (51 - n.log2) := by omega
    have hpower : 51 - n.log2 + 1 = 52 - n.log2 := by omega
    rw [hcast, if_neg hlog]
    simp [hpower]

theorem le_significand (hn : n ≠ 0) : 2 ^ 52 ≤ significand n := by
  have hle : 2 ^ n.log2 ≤ n := Nat.log2_self_le hn
  unfold significand
  by_cases hlog : 52 ≤ n.log2
  · rw [if_pos hlog]
    have hsplit : 2 ^ n.log2 = 2 ^ 52 * 2 ^ (n.log2 - 52) := by
      rw [← Nat.pow_add]
      congr 1
      omega
    calc 2 ^ 52 = 2 ^ n.log2 / 2 ^ (n.log2 - 52) := by
          rw [hsplit, Nat.mul_div_cancel _ (Nat.two_pow_pos _)]
      _ ≤ n / 2 ^ (n.log2 - 52) := Nat.div_le_div_right hle
      _ ≤ divNearestEven n (2 ^ (n.log2 - 52)) := by
          unfold divNearestEven
          simp only
          split_ifs <;> omega
  · rw [if_neg hlog]
    calc 2 ^ 52 = 2 ^ n.log2 * 2 ^ (52 - n.log2) := by
          rw [← Nat.pow_add]
          congr 1
          omega
      _ ≤ n * 2 ^ (52 - n.log2) := Nat.mul_le_mul_right _ hle

/-- Below `2 ^ 53` the significand is the integer itself, moved to its place. -/
theorem significand_of_lt (h : n < 2 ^ 53) : significand n = n * 2 ^ (52 - n.log2) := by
  unfold significand
  by_cases hlog : 52 ≤ n.log2
  · have hn : n ≠ 0 := by
      rintro rfl
      simp at hlog
    have hlt : n.log2 < 53 := (Nat.log2_lt hn).mpr h
    have heq : n.log2 = 52 := by omega
    rw [if_pos hlog, heq]
    simp
  · rw [if_neg hlog]

theorem significand_lt (h : n < 2 ^ 53) : significand n < 2 ^ 53 := by
  rw [significand_of_lt h]
  by_cases hn : n = 0
  · simp [hn]
  · have hlog : n.log2 < 53 := (Nat.log2_lt hn).mpr h
    have hlt : n < 2 ^ (n.log2 + 1) := Nat.lt_log2_self
    calc n * 2 ^ (52 - n.log2) < 2 ^ (n.log2 + 1) * 2 ^ (52 - n.log2) :=
          Nat.mul_lt_mul_of_pos_right hlt (Nat.two_pow_pos _)
      _ = 2 ^ 53 := by
          rw [← Nat.pow_add]
          congr 1
          omega

theorem significand_le (n : Nat) : significand n ≤ 2 ^ 53 := by
  by_cases hlog : 52 ≤ n.log2
  · have hlt : n < 2 ^ (n.log2 + 1) := Nat.lt_log2_self
    have hsplit : 2 ^ (n.log2 + 1) = 2 ^ (n.log2 - 52) * 2 ^ 53 := by
      rw [← Nat.pow_add]
      congr 1
      omega
    have hmono := divNearestEven_mono (2 ^ (n.log2 - 52)) (Nat.le_of_lt hlt)
    have hwhole : divNearestEven (2 ^ (n.log2 - 52) * 2 ^ 53) (2 ^ (n.log2 - 52)) = 2 ^ 53 := by
      have hpos := Nat.two_pow_pos (n.log2 - 52)
      unfold divNearestEven
      simp only [Nat.mul_div_cancel_left _ hpos, Nat.mul_mod_right]
      rw [if_pos (by omega)]
    rw [hsplit, hwhole] at hmono
    unfold significand
    rwa [if_pos hlog]
  · have hsmall : n < 2 ^ 53 := by
      by_contra hge
      exact hlog ((Nat.le_log2 (by omega)).mpr (by omega))
    exact Nat.le_of_lt (significand_lt hsmall)

theorem significand_mono (h : m ≤ n) (hlog : m.log2 = n.log2) :
    significand m ≤ significand n := by
  unfold significand
  rw [hlog]
  split_ifs
  · exact divNearestEven_mono _ h
  · exact Nat.mul_le_mul_right _ h

/-! ### Order -/

theorem log2_mono (hm : m ≠ 0) (h : m ≤ n) : m.log2 ≤ n.log2 :=
  (Nat.le_log2 (by omega)).mpr (Nat.le_trans (Nat.log2_self_le hm) h)

/-- **Rounding keeps the order**, though it may bring two integers together. -/
theorem nearestMagnitude_mono (h : m ≤ n) : nearestMagnitude m 1 ≤ nearestMagnitude n 1 := by
  by_cases hm : m = 0
  · subst hm
    exact Nat.zero_le _
  · have hn : n ≠ 0 := by omega
    rw [nearestMagnitude_natural hm, nearestMagnitude_natural hn]
    have hlog := log2_mono hm h
    have hle := significand_le m
    have hge := le_significand hn
    by_cases hsame : m.log2 = n.log2
    · have hmono := significand_mono h hsame
      omega
    · omega

/-- **An integer below `2 ^ 53` shares its double** with no other. -/
theorem nearestMagnitude_strictMono (h : m < n) (hsmall : m < 2 ^ 53) :
    nearestMagnitude m 1 < nearestMagnitude n 1 := by
  have hn : n ≠ 0 := by omega
  have hinfinity : infinityMagnitude = 0x7FF * 2 ^ 52 := rfl
  have hge := le_significand hn
  rw [nearestMagnitude_natural hn]
  by_cases hm : m = 0
  · subst hm
    have hzero : nearestMagnitude 0 1 = 0 := rfl
    omega
  · rw [nearestMagnitude_natural hm]
    have hlog := log2_mono hm (Nat.le_of_lt h)
    have hlow : m.log2 < 53 := (Nat.log2_lt hm).mpr hsmall
    have hlt := significand_lt hsmall
    by_cases hsame : m.log2 = n.log2
    · have hless : significand m < significand n := by
        have hsmall' : n < 2 ^ 53 := by
          have hlt' : n < 2 ^ (n.log2 + 1) := Nat.lt_log2_self
          have hpow : 2 ^ (n.log2 + 1) ≤ 2 ^ 53 := Nat.pow_le_pow_right (by decide) (by omega)
          omega
        rw [significand_of_lt hsmall, significand_of_lt hsmall', ← hsame]
        exact Nat.mul_lt_mul_of_pos_right h (Nat.two_pow_pos _)
      omega
    · omega

/-- How far an integer of 64 bits lies from what its significand stands for. -/
theorem significand_bounds (hlog : 52 ≤ n.log2) :
    2 * n ≤ 2 ^ (n.log2 - 52) * (2 * significand n + 1) ∧
      2 ^ (n.log2 - 52) * (2 * significand n) ≤ 2 * n + 2 ^ (n.log2 - 52) := by
  unfold significand
  rw [if_pos hlog]
  exact divNearestEven_bounds (Nat.two_pow_pos _)

/-- **Integers of 64 bits that share a double** are at most 2048 apart. -/
theorem sub_le_of_nearestMagnitude_eq (h : m ≤ n) (hlimit : n < 2 ^ 64)
    (heq : nearestMagnitude m 1 = nearestMagnitude n 1) : n - m ≤ 2048 := by
  by_cases hsmall : m < 2 ^ 53
  · have hsame : ¬ m < n := fun hlt =>
      Nat.ne_of_lt (nearestMagnitude_strictMono hlt hsmall) heq
    omega
  · have hm : m ≠ 0 := by omega
    have hn : n ≠ 0 := by omega
    have hlog := log2_mono hm h
    have hlog53 : 53 ≤ m.log2 := (Nat.le_log2 hm).mpr (by omega)
    have hlog64 : n.log2 < 64 := (Nat.log2_lt hn).mpr hlimit
    have hinfinity : infinityMagnitude = 0x7FF * 2 ^ 52 := rfl
    have hle := significand_le m
    have hge := le_significand hn
    rw [nearestMagnitude_natural hm, nearestMagnitude_natural hn] at heq
    have hlog52 : 52 ≤ m.log2 := by omega
    obtain ⟨-, hlow⟩ := significand_bounds hlog52
    obtain ⟨hhigh, -⟩ := significand_bounds (Nat.le_trans hlog52 hlog)
    have hstep : 2 ^ (n.log2 - 52) ≤ 2 ^ 11 := Nat.pow_le_pow_right (by decide) (by omega)
    by_cases hsame : m.log2 = n.log2
    · have hboth : significand m = significand n := by omega
      rw [hsame, hboth] at hlow
      have hexpand : 2 ^ (n.log2 - 52) * (2 * significand n + 1) =
          2 ^ (n.log2 - 52) * (2 * significand n) + 2 ^ (n.log2 - 52) := by ring
      omega
    · -- the smaller one is rounded up to the next power of two, the larger one down to it
      have hnext : n.log2 - 52 = m.log2 - 52 + 1 := by omega
      have hup : significand m = 2 ^ 53 := by omega
      have hdown : significand n = 2 ^ 52 := by omega
      rw [hup] at hlow
      rw [hdown, hnext, Nat.pow_succ] at hhigh
      rw [hnext, Nat.pow_succ] at hstep
      omega

end

/-! ### Signed integers -/

theorem magnitude_ofMagnitude {m : Nat} (hm : m < 2 ^ 63) (negative : Bool) :
    (ofMagnitude negative m).magnitude = m := by
  have hbit : signBit = 2 ^ 63 := rfl
  unfold ofMagnitude magnitude
  cases negative <;> simp [hbit] <;> omega

theorem isNegative_ofMagnitude {m : Nat} (hm : m < 2 ^ 63) (negative : Bool) :
    (ofMagnitude negative m).isNegative = negative := by
  have hbit : signBit = 2 ^ 63 := rfl
  unfold ofMagnitude isNegative
  cases negative <;> simp [hbit] <;> omega

theorem nearestMagnitude_le (num den : Nat) : nearestMagnitude num den ≤ infinityMagnitude := by
  unfold nearestMagnitude
  simp only
  split_ifs
  · exact Nat.zero_le _
  · exact Nat.min_le_right _ _

theorem nearestMagnitude_lt (num den : Nat) : nearestMagnitude num den < 2 ^ 63 :=
  Nat.lt_of_le_of_lt (nearestMagnitude_le num den) (by decide)

/-- Rounding always gives a number. -/
@[simp] theorem isNaN_ofRatio (negative : Bool) (num den : Nat) :
    (ofRatio negative num den).isNaN = false := by
  have hle := nearestMagnitude_le num den
  unfold ofRatio isNaN
  rw [magnitude_ofMagnitude (nearestMagnitude_lt num den)]
  simpa using hle

@[simp] theorem isNaN_ofInt (n : Int) : (ofInt n).isNaN = false := isNaN_ofRatio ..

/-- **The order of the double nearest to an integer.** -/
theorem key_ofInt (n : Int) :
    (ofInt n).key = if n < 0 then -(nearestMagnitude n.natAbs 1 : Int)
      else nearestMagnitude n.natAbs 1 := by
  have hlt := nearestMagnitude_lt n.natAbs 1
  unfold ofInt ofRatio key
  rw [magnitude_ofMagnitude hlt, isNegative_ofMagnitude hlt]
  simp

section

variable {a b : Int}

theorem nearestMagnitude_pos (h : a ≠ 0) : 0 < nearestMagnitude a.natAbs 1 :=
  nearestMagnitude_strictMono (Int.natAbs_pos.mpr h) (by decide)

theorem key_ofInt_mono (h : a ≤ b) : (ofInt a).key ≤ (ofInt b).key := by
  rw [key_ofInt, key_ofInt]
  by_cases hb : b < 0
  · have hmono : nearestMagnitude b.natAbs 1 ≤ nearestMagnitude a.natAbs 1 :=
      nearestMagnitude_mono (by omega)
    rw [if_pos hb, if_pos (by omega)]
    omega
  · rw [if_neg hb]
    by_cases ha : a < 0
    · rw [if_pos ha]
      omega
    · have hmono : nearestMagnitude a.natAbs 1 ≤ nearestMagnitude b.natAbs 1 :=
        nearestMagnitude_mono (by omega)
      rw [if_neg ha]
      omega

theorem key_ofInt_strictMono (h : a < b) (hsmall : a.natAbs < 2 ^ 53 ∨ b.natAbs < 2 ^ 53) :
    (ofInt a).key < (ofInt b).key := by
  rw [key_ofInt, key_ofInt]
  by_cases hb : b < 0
  · have hless : nearestMagnitude b.natAbs 1 < nearestMagnitude a.natAbs 1 :=
      nearestMagnitude_strictMono (by omega) (by omega)
    rw [if_pos hb, if_pos (by omega)]
    omega
  · rw [if_neg hb]
    by_cases ha : a < 0
    · have hpos := nearestMagnitude_pos (Int.ne_of_lt ha)
      rw [if_pos ha]
      omega
    · have hless : nearestMagnitude a.natAbs 1 < nearestMagnitude b.natAbs 1 :=
        nearestMagnitude_strictMono (by omega) (by omega)
      rw [if_neg ha]
      omega

/-- Two integers with one double agree in sign and magnitude. -/
theorem sign_magnitude_of_key_eq (h : (ofInt a).key = (ofInt b).key) :
    (a < 0 ↔ b < 0) ∧ nearestMagnitude a.natAbs 1 = nearestMagnitude b.natAbs 1 := by
  have hpos : a ≠ 0 → 0 < nearestMagnitude a.natAbs 1 := nearestMagnitude_pos
  have hpos' : b ≠ 0 → 0 < nearestMagnitude b.natAbs 1 := nearestMagnitude_pos
  rw [key_ofInt, key_ofInt] at h
  constructor <;> split_ifs at h <;> omega

theorem ofInt_inj : ofInt a = ofInt b ↔ (ofInt a).key = (ofInt b).key := by
  constructor
  · intro h
    rw [h]
  · intro h
    obtain ⟨hsign, hmagnitude⟩ := sign_magnitude_of_key_eq h
    simp only [ofInt, ofRatio, hmagnitude, hsign]

/-- The signed form of `sub_le_of_nearestMagnitude_eq`. -/
theorem natAbs_sub_le_of_key_eq (ha : a.natAbs < 2 ^ 64) (hb : b.natAbs < 2 ^ 64)
    (heq : (ofInt a).key = (ofInt b).key) : (a - b).natAbs ≤ 2048 := by
  obtain ⟨hsign, hmagnitude⟩ := sign_magnitude_of_key_eq heq
  rcases Nat.le_total a.natAbs b.natAbs with h | h
  · have hdist := sub_le_of_nearestMagnitude_eq h hb hmagnitude
    omega
  · have hdist := sub_le_of_nearestMagnitude_eq h ha hmagnitude.symm
    omega

end

end Double

end FlowGraph
