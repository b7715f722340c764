import FlowGraph.Proofs.Number.Nearest
import FlowGraph.Proofs.Run.Steering

/-! # Comparisons of integers

A JSON value holds an integer of 64 bits exactly, but two integers are compared as the doubles
nearest to them. So two that share a double count as equal, and all other pairs compare as the
integers they are.

* `compare_key_ofInt` gives the order of the doubles by the order of the integers.
* `evaluate_integers` is the law for all six comparisons, for conditions and for cases;
  `not_evaluate_integers_exact` has two integers that are taken for equal. -/

namespace FlowGraph

/-! ### Doubles of integers -/

namespace Double

variable {a b : Int}

/-- The order of two integers that takes those with one double for equal. -/
def nearestOrder (a b : Int) : Ordering := if ofInt a = ofInt b then .eq else compare a b

theorem compare_key_ofInt (a b : Int) : compare (ofInt a).key (ofInt b).key = nearestOrder a b := by
  unfold nearestOrder
  by_cases hsame : ofInt a = ofInt b
  · rw [if_pos hsame, hsame]
    exact Int.compare_eq_eq.mpr rfl
  · have hne : (ofInt a).key ≠ (ofInt b).key := fun h => hsame (ofInt_inj.mpr h)
    rw [if_neg hsame]
    rcases Int.lt_trichotomy a b with hlt | rfl | hgt
    · have hkey := key_ofInt_mono (Int.le_of_lt hlt)
      rw [Int.compare_eq_lt.mpr hlt, Int.compare_eq_lt.mpr (by omega)]
    · exact absurd rfl hne
    · have hkey := key_ofInt_mono (Int.le_of_lt hgt)
      rw [Int.compare_eq_gt.mpr hgt, Int.compare_eq_gt.mpr (by omega)]

/-- **Where the doubles tell integers apart**: below `2 ^ 53`, and more than 2048 apart. -/
theorem nearestOrder_eq_compare (ha : a.natAbs < 2 ^ 64) (hb : b.natAbs < 2 ^ 64)
    (h : a.natAbs < 2 ^ 53 ∨ b.natAbs < 2 ^ 53 ∨ 2048 < (a - b).natAbs) :
    nearestOrder a b = compare a b := by
  unfold nearestOrder
  by_cases hsame : ofInt a = ofInt b
  · have hkey := ofInt_inj.mp hsame
    have hdist := natAbs_sub_le_of_key_eq ha hb hkey
    have hless : ¬ a < b := fun hlt =>
      Int.ne_of_lt (key_ofInt_strictMono hlt (by omega)) hkey
    have hmore : ¬ b < a := fun hlt =>
      Int.ne_of_lt (key_ofInt_strictMono hlt (by omega)) hkey.symm
    rw [if_pos hsame, eq_comm]
    exact Int.compare_eq_eq.mpr (by omega)
  · exact if_neg hsame

end Double

/-! ### Comparisons -/

namespace Double

/-- The three comparisons of numbers by the order of their keys. -/
theorem order_of_numbers {x y : Double} (hx : x.isNaN = false) (hy : y.isNaN = false) :
    x.eq y = (compare x.key y.key).isEq ∧ x.lt y = (compare x.key y.key).isLT ∧
      x.le y = (compare x.key y.key).isLE := by
  unfold eq lt le
  rw [hx, hy]
  rcases Int.lt_trichotomy x.key y.key with h | h | h
  · rw [Int.compare_eq_lt.mpr h]
    simp [h, Int.ne_of_lt h, Int.le_of_lt h]
  · rw [Int.compare_eq_eq.mpr h]
    simp [h]
  · rw [Int.compare_eq_gt.mpr h]
    simp [Int.ne_of_gt h, Int.not_lt.mpr (Int.le_of_lt h), h]

end Double

namespace Condition

open Double (nearestOrder)

/-- The comparisons of numbers by name, each with the orders for which it holds. -/
def comparisons : List (String × (Ordering → Bool)) := [
  ("equals", Ordering.isEq), ("not_equals", Ordering.isNe), ("greater_than", Ordering.isGT),
  ("less_than", Ordering.isLT), ("greater_than_or_equal", Ordering.isGE),
  ("less_than_or_equal", Ordering.isLE)]

/-- Every comparison of two integers asks for the order of their doubles. -/
theorem evaluate_eq_nearestOrder (a b : Int) {c : String × (Ordering → Bool)}
    (hc : c ∈ comparisons) : evaluate (.int a) c.1 (.int b) = c.2 (nearestOrder a b) := by
  obtain ⟨heq, hlt, hle⟩ :=
    Double.order_of_numbers (Double.isNaN_ofInt a) (Double.isNaN_ofInt b)
  obtain ⟨-, hgt, hge⟩ :=
    Double.order_of_numbers (Double.isNaN_ofInt b) (Double.isNaN_ofInt a)
  have hswap : compare (Double.ofInt b).key (Double.ofInt a).key = (nearestOrder a b).swap := by
    rw [← Double.compare_key_ofInt, ← Int.compare_swap]
  rw [Double.compare_key_ofInt] at heq hlt hle
  rw [hswap] at hgt hge
  simp only [comparisons, List.mem_cons, List.not_mem_nil, or_false] at hc
  rcases hc with rfl | rfl | rfl | rfl | rfl | rfl
  · exact heq
  · change (!(Double.ofInt a).eq (Double.ofInt b)) = _
    rw [heq]
    cases nearestOrder a b <;> rfl
  · change (Double.ofInt b).lt (Double.ofInt a) = _
    rw [hgt]
    cases nearestOrder a b <;> rfl
  · exact hlt
  · change (Double.ofInt b).le (Double.ofInt a) = _
    rw [hge]
    cases nearestOrder a b <;> rfl
  · exact hle

/-- **Comparisons of integers.** Two integers compare as they are, but those with one double count
as equal: for all six comparisons, in a condition and in a case. Integers of 64 bits have different
doubles if one of them is below `2 ^ 53`, or if they are more than 2048 apart. -/
theorem evaluate_integers (a b : Int) :
    (∀ c ∈ comparisons,
      evaluate (.int a) c.1 (.int b) = c.2 (nearestOrder a b) ∧
      (∀ config k ctx, IfElse.Config.decode (.ofJson config) = .ok k → k.operator = c.1 →
        ctx.resolve k.value1 = .int a → ctx.resolve k.value2 = .int b →
        ∃ r, IfElse.run config ctx = .ok r ∧
          Walk.branchOf r.data = if c.2 (nearestOrder a b) then "true" else "false") ∧
      ∀ tag, Switch.Case.Matches (.int a) (.tagged (.int b) tag c.1) ↔ c.2 (nearestOrder a b)) ∧
    (Switch.Case.Matches (.int a) (.bare (.int b)) ↔ (nearestOrder a b).isEq) ∧
    (Json.isExact a → Json.isExact b →
      a.natAbs < 2 ^ 53 ∨ b.natAbs < 2 ^ 53 ∨ 2048 < (a - b).natAbs →
      nearestOrder a b = compare a b) := by
  refine ⟨fun c hc => ⟨evaluate_eq_nearestOrder a b hc, ?_, fun tag => ?_⟩, ?_, ?_⟩
  · intro config k ctx hconfig hoperator ha hb
    refine ⟨_, IfElse.run_eq_result hconfig ctx, ?_⟩
    rw [IfElse.branchOf_result, IfElse.holds, hoperator, ha, hb, evaluate_eq_nearestOrder a b hc]
  · change evaluate (.int a) c.1 (.int b) = true ↔ _
    rw [evaluate_eq_nearestOrder a b hc]
  · change evaluate (.int a) "equals" (.int b) = true ↔ _
    rw [evaluate_eq_nearestOrder a b (c := ("equals", Ordering.isEq)) List.mem_cons_self]
  · intro ha hb hapart
    have hlimit : Nat.pow 2 63 = 2 ^ 63 ∧ Nat.pow 2 64 = 2 ^ 64 := ⟨rfl, rfl⟩
    simp only [Json.isExact, Bool.and_eq_true, decide_eq_true_eq, hlimit] at ha hb
    exact Double.nearestOrder_eq_compare (by omega) (by omega) hapart

/-- Two identifiers of 54 bits, told apart by a condition. -/
theorem evaluate_integers_identifiers :
    let a : Int := 9007199254740993
    let b : Int := 9007199254743042
    let config := Json.obj [("operator", .str "equals"), ("value1", .int a), ("value2", .int b)]
    let ctx : NodeContext := { input := .null, vars := .obj [], outputs := [],
                               nodeId := "same", executionId := "", workflowName := "" }
    ("equals", Ordering.isEq) ∈ comparisons ∧
    IfElse.Config.decode (.ofJson config) = .ok ⟨.int a, "equals", .int b⟩ ∧
    Json.isExact a ∧ Json.isExact b ∧ 2048 < (a - b).natAbs ∧
    evaluate (.int a) "equals" (.int b) = false ∧
    ∃ r, IfElse.run config ctx = .ok r ∧ Walk.branchOf r.data = "false" := by
  intro a b config ctx
  have hmem : ("equals", Ordering.isEq) ∈ comparisons := List.mem_cons_self
  obtain ⟨hcompares, -, hexact⟩ := evaluate_integers a b
  have horder : nearestOrder a b = .lt := hexact (by decide) (by decide) (Or.inr (Or.inr (by decide)))
  obtain ⟨hequals, hcondition, -⟩ := hcompares _ hmem
  rw [horder] at hequals hcondition
  exact ⟨hmem, rfl, by decide, by decide, by decide, hequals,
    hcondition config _ ctx rfl rfl rfl rfl⟩

/-- **Two identifiers that are taken for equal**, by a condition and by a case. -/
theorem not_evaluate_integers_exact :
    let a : Int := 9007199254740993
    let b : Int := 9007199254740992
    Json.isExact a ∧ Json.isExact b ∧ b < a ∧ evaluate (.int a) "equals" (.int b) = true ∧
      evaluate (.int a) "greater_than" (.int b) = false ∧
      (Switch.Case.bare (.int b)).matches? (.int a) = some "9007199254740992" := by
  decide +kernel

end Condition

end FlowGraph
