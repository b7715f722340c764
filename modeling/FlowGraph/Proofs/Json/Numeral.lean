import FlowGraph.Proofs.Number.Numeral
import FlowGraph.Proofs.Number.Product

/-! # Numerals of JSON texts

A numeral in a JSON text is read by its parts, and it gives a number if its significand fits 64 bits
and the power of ten that comes with it does not lead beyond the doubles.

* `Reader.numeral_unsigned`: the parts of a numeral are read back.
* `isSome_value?` says when they give a number; `scale` can only fail with an exponent that is not
  negative (`isSome_scale_of_neg`).
* `value?_ofInt`: an integer of 64 bits is read back. `isSome_value?_ofDouble`: a finite double is
  read as a number. -/

namespace FlowGraph.Json

/-! ### The parts of a numeral -/

namespace Numeral

/-- A numeral of JSON has no zero in front, unless it stands alone before the point. -/
structure Parts.IsStrict (p : Parts) : Prop extends p.IsWritten where
  leading : p.whole.head? = some '0' → p.whole.length = 1

end Numeral

namespace Reader

open Numeral (Parts)
open Numeral.Parts (fractionChars exponentChars fractionChars_head exponentChars_head)

variable {p : Parts} {ds rest : List Char}

/-- What can stand behind a value. -/
def Ends (rest : List Char) : Prop := ∀ c ∈ rest.head?, c = ',' ∨ c = ']' ∨ c = '\x7d'

theorem Ends.isDigit (h : Ends rest) : ∀ c ∈ rest.head?, c.isDigit = false := by
  intro c hc
  rcases h c hc with rfl | rfl | rfl <;> rfl

theorem someDigits_append (hds : IsDigits ds) (hrest : ∀ c ∈ rest.head?, c.isDigit = false) :
    someDigits (ds ++ rest) = some (ds, rest) := by
  unfold someDigits
  rw [IsDigits.readDigits_append hds.isDigit hrest]
  simp [hds.ne_nil]

theorem wholeDigits_append (h : p.IsStrict) (hrest : ∀ c ∈ rest.head?, c.isDigit = false) :
    wholeDigits (p.whole ++ rest) = some (p.whole, rest) := by
  unfold wholeDigits
  rw [someDigits_append h.whole hrest]
  split
  · next hzero =>
    obtain ⟨hwhole, -⟩ := Prod.mk.inj (Option.some.inj hzero)
    have hone := h.leading (by rw [hwhole]; rfl)
    rw [hwhole] at hone
    cases hone
  · rfl

theorem exponentDigits_append (h : ∀ x ∈ p.exponent, IsDigits x.2) (hrest : Ends rest) :
    exponentDigits (exponentChars p.exponent ++ rest) = some (p.exponent, rest) := by
  cases he : p.exponent with
  | none =>
    cases rest with
    | nil => rfl
    | cons c rest =>
      have hmark : ¬ (c = 'e' ∨ c = 'E') := by
        rcases hrest c rfl with rfl | rfl | rfl <;> decide
      exact if_neg hmark
  | some x =>
    obtain ⟨small, ds⟩ := x
    have hsign : Decimal.readSign ((if small then '-' else '+') :: (ds ++ rest)) =
        (small, ds ++ rest) := by
      cases small <;> rfl
    have hdigits := someDigits_append (h (small, ds) he) hrest.isDigit
    simp only [exponentChars, exponentDigits, List.cons_append, hsign, hdigits]
    rfl

theorem fractionDigits_append (h : ∀ ds ∈ p.fraction, IsDigits ds)
    (hrest : ∀ c ∈ rest.head?, c.isDigit = false ∧ c ≠ '.') :
    fractionDigits (fractionChars p.fraction ++ rest) = some (p.fraction, rest) := by
  cases hf : p.fraction with
  | none =>
    cases rest with
    | nil => rfl
    | cons c rest =>
      have hpoint := (hrest c rfl).2
      change fractionDigits (c :: rest) = _
      unfold fractionDigits
      split
      · next heq => exact absurd (List.cons.inj heq).1 hpoint
      · rfl
  | some ds =>
    have hdigits := someDigits_append (h ds hf) fun c hc => (hrest c hc).1
    simp only [fractionChars, List.cons_append, fractionDigits, hdigits]
    rfl

/-- **The parts of a numeral are read back.** -/
theorem numeral_unsigned (h : p.IsStrict) (hrest : Ends rest) :
    numeral p.negative (p.unsigned ++ rest) = some (p, rest) := by
  have hexponent : ∀ c ∈ (exponentChars p.exponent ++ rest).head?, c.isDigit = false ∧ c ≠ '.' := by
    cases p.exponent with
    | none =>
      intro c hc
      rcases hrest c hc with rfl | rfl | rfl <;> decide
    | some x =>
      rintro c ⟨⟩
      decide
  have hfraction := fractionChars_head p.fraction fun c hc => (hexponent c hc).1
  unfold numeral Parts.unsigned
  simp only [List.append_assoc]
  rw [wholeDigits_append h hfraction]
  simp only [fractionDigits_append h.fraction hexponent,
    exponentDigits_append h.exponent hrest, bind, Option.bind]

end Reader

/-! ### The number of a numeral -/

namespace Numeral

variable {cs : List Char}

/-- Digits are all appended if there is room for the number they make. -/
theorem absorb_eq {n : Nat} (h : 10 ^ cs.length * n + Decimal.ofDigits cs < significandLimit) :
    absorb n cs = (10 ^ cs.length * n + Decimal.ofDigits cs, []) := by
  induction cs generalizing n with
  | nil => simp [absorb, Decimal.ofDigits]
  | cons c cs ih =>
    have hmore : 10 ^ (c :: cs).length * n + Decimal.ofDigits (c :: cs) =
        10 ^ cs.length * (10 * n + Decimal.digitValue c) + Decimal.ofDigits cs := by
      rw [Decimal.ofDigits_cons, List.length_cons, Nat.pow_succ]
      ring
    rw [hmore] at h ⊢
    have hnext : 10 * n + Decimal.digitValue c ≤
        10 ^ cs.length * (10 * n + Decimal.digitValue c) :=
      Nat.le_mul_of_pos_left _ (Nat.pow_pos (by decide))
    unfold absorb
    simp only
    rw [if_pos (by omega), ih h]

/-- **A negative exponent never leads beyond the doubles.** -/
theorem isSome_scale_of_neg {fuel : Nat} {d : Double} {e : Int} (he : e < 0) :
    (scale fuel d e).isSome := by
  induction fuel generalizing d e with
  | zero => rfl
  | succ fuel ih =>
    unfold scale
    split_ifs with hlow hpos
    · omega
    · rfl
    · rfl
    · omega
    · refine ih ?_
      unfold largestPower at hlow ⊢
      omega

namespace Parts

/-- All digits of a numeral but those of its exponent. -/
def digits (p : Parts) : List Char := p.whole ++ p.fraction.getD []

/-- The power of ten that belongs to all these digits. -/
def power (p : Parts) : Int :=
  (match p.exponent with
    | none => 0
    | some (small, ds) => if small then -(Decimal.ofDigits ds : Int) else Decimal.ofDigits ds) -
    (p.fraction.getD []).length

end Parts

theorem isSome_toDouble? {negative : Bool} {significand : Nat} {e : Int}
    (h : 0 ≤ e → (scale scaleSteps (Double.ofInt significand) e).isSome) :
    (toDouble? negative significand e).isSome := by
  unfold toDouble?
  rw [Option.isSome_map]
  by_cases he : 0 ≤ e
  · exact h he
  · exact isSome_scale_of_neg (by omega)

/-- All digits are absorbed if the number they make fits 64 bits. -/
theorem absorb_digits {p : Parts} (h : Decimal.ofDigits p.digits < significandLimit) :
    absorb 0 p.whole = (Decimal.ofDigits p.whole, []) ∧
      absorb (Decimal.ofDigits p.whole) (p.fraction.getD []) = (Decimal.ofDigits p.digits, []) := by
  have hsplit : Decimal.ofDigits p.digits =
      10 ^ (p.fraction.getD []).length * Decimal.ofDigits p.whole +
        Decimal.ofDigits (p.fraction.getD []) := Decimal.ofDigits_append _ _
  have hpart : Decimal.ofDigits p.whole ≤
      10 ^ (p.fraction.getD []).length * Decimal.ofDigits p.whole :=
    Nat.le_mul_of_pos_left _ (Nat.pow_pos (by decide))
  constructor
  · have hroom : 10 ^ p.whole.length * 0 + Decimal.ofDigits p.whole < significandLimit := by omega
    rw [absorb_eq hroom, Nat.mul_zero, Nat.zero_add]
  · rw [absorb_eq (by omega), hsplit]

/-- **When a numeral gives a number**: its digits fit 64 bits, and the power of ten does not lead
beyond the doubles. -/
theorem isSome_value? {p : Parts} (hdigits : Decimal.ofDigits p.digits < significandLimit)
    (hexponent : ∀ ds ∈ p.exponent, ds.1 = false → Decimal.ofDigits ds.2 ≤ exponentLimit)
    (hscale : 0 ≤ p.power →
      (scale scaleSteps (Double.ofInt (Decimal.ofDigits p.digits : Nat)) p.power).isSome) :
    (value? p).isSome := by
  obtain ⟨hwhole, hfraction⟩ := absorb_digits hdigits
  unfold value?
  rw [hwhole]
  simp only [hfraction]
  split
  · rfl
  · cases he : p.exponent with
    | none =>
      have hpower : p.power = (([] : List Char).length : Int) -
          ((p.fraction.getD []).length - ([] : List Char).length) := by
        unfold Parts.power
        rw [he]
        simp
      rw [Option.isSome_map, ← hpower]
      exact isSome_toDouble? hscale
    | some x =>
      obtain ⟨small, ds⟩ := x
      have hpower : (if small then
            (([] : List Char).length : Int) - ((p.fraction.getD []).length -
              ([] : List Char).length) - Decimal.ofDigits ds
          else (([] : List Char).length : Int) - ((p.fraction.getD []).length -
            ([] : List Char).length) + Decimal.ofDigits ds) = p.power := by
        unfold Parts.power
        rw [he]
        cases small <;> simp <;> ring
      simp only
      by_cases hlarge : Decimal.ofDigits ds > exponentLimit
      · have hsmall : small = true := by
          by_contra hnot
          have hle : Decimal.ofDigits ds ≤ exponentLimit :=
            hexponent (small, ds) he (by simpa using hnot)
          omega
        rw [if_pos hlarge, if_neg (by simp [hsmall])]
        rfl
      · rw [if_neg hlarge, Option.isSome_map, hpower]
        exact isSome_toDouble? hscale

/-- **An integer of 64 bits is read back.** -/
theorem value?_ofInt {n : Int} (h : isExact n) : value? (Parts.ofInt n) = some (.int n) := by
  have hlimit : significandLimit = 2 ^ 64 := rfl
  have hpow : Nat.pow 2 63 = 2 ^ 63 ∧ Nat.pow 2 64 = 2 ^ 64 := ⟨rfl, rfl⟩
  simp only [isExact, Bool.and_eq_true, decide_eq_true_eq, hpow] at h
  have hwhole : absorb 0 (Nat.toDigits 10 n.natAbs) = (n.natAbs, []) := by
    have hroom : 10 ^ (Nat.toDigits 10 n.natAbs).length * 0 +
        Decimal.ofDigits (Nat.toDigits 10 n.natAbs) < significandLimit := by
      rw [Decimal.ofDigits_toDigits]
      omega
    have habsorb := absorb_eq hroom
    rwa [Decimal.ofDigits_toDigits, Nat.mul_zero, Nat.zero_add] at habsorb
  have hsmall : 0 ≤ n ∨ ¬ n = 0 ∧ n.natAbs ≤ 2 ^ 63 := by omega
  have hvalue : (if n < 0 then -(n.natAbs : Int) else n.natAbs) = n := by
    split_ifs <;> omega
  unfold value? Parts.ofInt
  rw [hwhole]
  simp only [hpow]
  rw [if_pos]
  · simpa using hvalue
  · simpa using hsmall

/-! ### What numbers are written as -/

namespace Parts

/-- A number has no zero in front, unless it is zero. -/
theorem head?_toDigits {n : Nat} (h : (Nat.toDigits 10 n).head? = some '0') : n = 0 := by
  obtain ⟨cs, hcs⟩ := List.head?_eq_some_iff.mp h
  have hvalue : Decimal.ofDigits ('0' :: cs) = n := by rw [← hcs, Decimal.ofDigits_toDigits]
  have hrest : Decimal.ofDigits cs < 10 ^ cs.length := Decimal.ofDigits_lt fun c hc =>
    (IsDigits.toDigits n).isDigit c (hcs ▸ List.mem_cons_of_mem _ hc)
  have hzero : Decimal.digitValue '0' = 0 := rfl
  rw [Decimal.ofDigits_cons, hzero, Nat.mul_zero, Nat.zero_add] at hvalue
  rw [hvalue] at hrest
  cases cs with
  | nil => simpa using hrest
  | cons d ds =>
    have hless := (Nat.length_toDigits_le_iff (b := 10) (by decide) (by simp)).mpr hrest
    rw [hcs] at hless
    simp at hless

theorem isStrict_ofInt (n : Int) : (ofInt n).IsStrict where
  toIsWritten := isWritten_ofInt n
  leading h := by
    have hzero : n.natAbs = 0 := head?_toDigits h
    unfold ofInt
    rw [hzero]
    rfl

theorem isStrict_ofDecimal (negative : Bool) {n : Nat} (hn : n ≠ 0) (e : Int) :
    (ofDecimal negative n e).IsStrict where
  toIsWritten := isWritten_ofDecimal negative n e
  leading h := by
    have hhead : (Nat.toDigits 10 n).head? ≠ some '0' := fun hzero => hn (head?_toDigits hzero)
    have hne : Nat.toDigits 10 n ≠ [] := Nat.toDigits_ne_nil
    have htake : ∀ k : Nat, ((Nat.toDigits 10 n).take k).head? ≠ some '0' := by
      intro k hk
      rw [List.head?_take] at hk
      split_ifs at hk
      exact hhead hk
    unfold ofDecimal at h ⊢
    simp only at h ⊢
    split_ifs at h ⊢
    · rw [List.head?_append_of_ne_nil _ hne] at h
      exact absurd h hhead
    · exact absurd h (htake _)
    · rfl
    · exact absurd h (htake _)
    · exact absurd h (htake _)

/-- **The digits and the power of ten** that a decimal is written with: those of the decimal, or some
with a negative power. -/
theorem digits_ofDecimal (negative : Bool) {n : Nat} (hn : n ≤ 10 ^ 17) (e : Int) :
    Decimal.ofDigits (ofDecimal negative n e).digits < significandLimit ∧
      ((ofDecimal negative n e).power < 0 ∨ (ofDecimal negative n e).power = e ∧
        Decimal.ofDigits (ofDecimal negative n e).digits = n) := by
  have hlimit : significandLimit = 2 ^ 64 := rfl
  have hvalue := Decimal.ofDigits_toDigits n
  have hdigits := IsDigits.toDigits n
  have hpos := List.length_pos_iff.mpr hdigits.ne_nil
  have hsign : ∀ lead : Int, (if lead < 0 then -(lead.natAbs : Int) else lead.natAbs) = lead := by
    intro lead
    split_ifs <;> omega
  have hzero : ∀ k ds, Decimal.ofDigits (Double.zeros k ++ ds) = Decimal.ofDigits ds := by
    intro k ds
    rw [Decimal.ofDigits_append, Double.zeros, Decimal.ofDigits_zeros, Nat.mul_zero, Nat.zero_add]
  unfold ofDecimal
  simp only
  generalize Nat.toDigits 10 n = ds at hvalue hdigits hpos ⊢
  split_ifs with hplain he hlead hone
  · have hshort : ds.length + e.toNat + 1 ≤ 17 := by
      simp only [Double.isPlainExponent, Bool.and_eq_true, decide_eq_true_eq] at hplain
      omega
    have hall : IsDigits ((ds ++ Double.zeros e.toNat) ++ ['0']) :=
      (hdigits.append_zeros e.toNat).append_zeros 1
    have hless := Decimal.ofDigits_lt hall.isDigit
    have hlength : ((ds ++ Double.zeros e.toNat) ++ ['0']).length = ds.length + e.toNat + 1 := by
      simp [Double.zeros, Nat.add_assoc]
    have hpow : 10 ^ (ds.length + e.toNat + 1) ≤ 10 ^ 17 := Nat.pow_le_pow_right (by decide) hshort
    rw [hlength] at hless
    refine ⟨?_, Or.inl ?_⟩
    · simp only [digits, Option.getD_some]
      omega
    · simp [power]
  · simp only [digits, power, Option.getD_some, List.take_append_drop, hvalue, List.length_drop]
    omega
  · have hwhole : ∀ cs, Decimal.ofDigits ('0' :: cs) = Decimal.ofDigits cs := hzero 1
    simp only [digits, power, Option.getD_some, List.singleton_append, hwhole, hzero, hvalue,
      List.length_append]
    omega
  · have htake : ds.take 1 = ds := List.take_of_length_le (by omega)
    simp only [digits, power, Option.getD_none, htake, List.append_nil, hvalue,
      Decimal.ofDigits_toDigits, List.length_nil, decide_eq_true_eq, hsign, and_true]
    omega
  · simp only [digits, power, Option.getD_some, List.take_append_drop, hvalue,
      Decimal.ofDigits_toDigits, List.length_drop, decide_eq_true_eq, hsign, and_true]
    omega

/-- An exponent that is not negative is small. -/
theorem exponent_ofDecimal {negative : Bool} {n : Nat} (hn : n ≤ 10 ^ 17) {e : Int}
    (he : 0 ≤ e → e ≤ largestPower) :
    ∀ ds ∈ (ofDecimal negative n e).exponent, ds.1 = false →
      Decimal.ofDigits ds.2 ≤ exponentLimit := by
  have hlimit : exponentLimit = 2 ^ 31 - 1 := rfl
  have hlargest : largestPower = 308 := rfl
  have hlength : (Nat.toDigits 10 n).length ≤ 18 :=
    (Nat.length_toDigits_le_iff (by decide) (by decide)).mpr (by omega)
  unfold ofDecimal
  simp only
  split_ifs <;> rintro ds ⟨⟩ hsmall <;>
    simp only [decide_eq_false_iff_not, Decimal.ofDigits_toDigits] at hsmall ⊢ <;> omega

theorem isStrict_ofDouble {d : Double} (h : d.isFinite) : (ofDouble d).IsStrict := by
  have hzero : IsDigits ['0'] := ⟨by simp, by simp⟩
  unfold ofDouble
  split_ifs with hd
  · exact ⟨⟨hzero, by simpa using hzero, by simp⟩, fun _ => rfl⟩
  · exact isStrict_ofDecimal _ (Shortest.decimal_bounds h (by simpa using hd)).1 _

end Parts

/-- **The text of a finite double gives a number.** -/
theorem isSome_value?_ofDouble {d : Double} (h : d.isFinite) :
    (value? (Parts.ofDouble d)).isSome := by
  unfold Parts.ofDouble
  split_ifs with hd
  · have hsmall : Decimal.ofDigits ['0', '0'] < significandLimit := by decide
    refine isSome_value? (p := ⟨d.isNegative, ['0'], some ['0'], none⟩) hsmall (by simp) ?_
    intro hpower
    simp [Parts.power] at hpower
  · have hzero : d.isZero = false := by simpa using hd
    obtain ⟨-, hcount, -⟩ := Shortest.decimal_bounds h hzero
    obtain ⟨hdigits, hpower⟩ := Parts.digits_ofDecimal d.isNegative hcount (Shortest.decimal d).2
    refine isSome_value? hdigits (Parts.exponent_ofDecimal hcount fun he =>
      (isSome_scale_decimal h hzero he).1) fun hnonneg => ?_
    rcases hpower with hnegative | ⟨hpower, hvalue⟩
    · omega
    · rw [hpower, hvalue]
      exact (isSome_scale_decimal h hzero (hpower ▸ hnonneg)).2

end Numeral

end FlowGraph.Json
