import FlowGraph.Proofs.Json.Value
import FlowGraph.Proofs.Run.Steering

/-! # Equality of operands

Two operands that both have a number are equal if their numbers are, all others if their texts are.
Whether there is a number can be told by the text alone, so the two ways never mix: each operand
counts as one thing, a number or a text (`identity?`), and equality is that of these things.

* `looseEq_iff` says so; symmetry and transitivity come with it.
* A string that spells `nan` counts as nothing: it equals no operand, not even itself.
* `evaluate_equals` is the law, for conditions, for arrays and for cases; `not_evaluate_equals_self`
  has the strings that are left out. -/

namespace FlowGraph

namespace Condition

variable {a b c j : Json}

/-! ### Numbers and texts -/

/-- What an operand counts as: its number by the order of doubles or, without one, its text. -/
def identity? (j : Json) : Option (Int ⊕ String) :=
  match numeric? j with
  | some x => if x.isNaN then none else some (.inl x.key)
  | none => some (.inr j.text)

theorem numeric?_eq_number? (h : ∀ b, j ≠ .bool b) : numeric? j = j.number? := by
  cases j with
  | bool b => exact absurd rfl (h b)
  | _ => rfl

/-- The text alone tells whether an operand has a number. -/
theorem isSome_numeric? (h : j.IsValue) : (numeric? j).isSome = Json.isNumeric j.text := by
  by_cases hbool : ∃ b, j = .bool b
  · obtain ⟨b, rfl⟩ := hbool
    exact (Json.isNumeric_bool b).symm
  · have hother : ∀ b, j ≠ .bool b := fun b hb => hbool ⟨b, hb⟩
    rw [numeric?_eq_number? hother]
    exact h.isSome_number? hother

theorem isNaN_of_numeric? (h : j.IsValue) {x : Double} (hx : numeric? j = some x) :
    x.isNaN = j.spellsNaN := by
  have hother : ∀ b, j ≠ .bool b := by
    rintro b rfl
    cases hx
  rw [numeric?_eq_number? hother] at hx
  exact h.isNaN_of_number? hx

theorem isSome_numeric?_of_spellsNaN (h : j.spellsNaN) : (numeric? j).isSome := by
  cases j with
  | str s =>
    have hspells : Decimal.spellsNaN (Text.trim s) := h
    rw [numeric?_eq_number? (by simp), Json.number?]
    exact Decimal.isSome_of_spellsNaN hspells
  | _ => cases h

/-- **Only a string that spells `nan`** counts as nothing. -/
theorem isSome_identity? (h : j.IsValue) : (identity? j).isSome = !j.spellsNaN := by
  unfold identity?
  cases hx : numeric? j with
  | some x =>
    rw [← isNaN_of_numeric? h hx]
    cases hnan : x.isNaN <;> simp [hnan]
  | none =>
    have hnone : j.spellsNaN = false := by
      by_contra hspells
      have hsome := isSome_numeric?_of_spellsNaN (Bool.eq_true_of_not_eq_false hspells)
      rw [hx] at hsome
      cases hsome
    rw [hnone]
    rfl

theorem identity?_eq_none (h : j.IsValue) (hspells : j.spellsNaN) : identity? j = none := by
  have hsome := isSome_identity? h
  rw [hspells] at hsome
  exact Option.isNone_iff_eq_none.mp (by simpa using hsome)

/-! ### Equality -/

/-- Operands with one text have both a number or both none. -/
theorem text_ne_of_numeric? (ha : a.IsValue) (hb : b.IsValue)
    (hne : (numeric? a).isSome ≠ (numeric? b).isSome) : a.text ≠ b.text := by
  intro htext
  rw [isSome_numeric? ha, isSome_numeric? hb, htext] at hne
  exact hne rfl

/-- **Two operands are equal** if they count as the same thing. -/
theorem looseEq_iff (ha : a.IsValue) (hb : b.IsValue) :
    looseEq a b ↔ ∃ k, identity? a = some k ∧ identity? b = some k := by
  have hshared : ∀ k l : Int ⊕ String, (∃ m, some k = some m ∧ some l = some m) ↔ l = k := by
    simp
  have htext := text_ne_of_numeric? ha hb
  unfold looseEq identity?
  cases hx : numeric? a with
  | some x =>
    cases hy : numeric? b with
    | some y =>
      unfold Double.eq
      cases hxn : x.isNaN <;> cases hyn : y.isNaN <;> simp [hxn, hyn, @eq_comm _ y.key]
    | none =>
      rw [hx, hy] at htext
      cases hxn : x.isNaN <;> simp [hxn, htext]
  | none =>
    cases hy : numeric? b with
    | some y =>
      rw [hx, hy] at htext
      cases hyn : y.isNaN <;> simp [hyn, htext]
    | none => simp [@eq_comm _ b.text]

theorem looseEq_self (ha : a.IsValue) : looseEq a a = !a.spellsNaN := by
  rw [← isSome_identity? ha, Bool.eq_iff_iff, looseEq_iff ha ha, Option.isSome_iff_exists]
  simp

theorem looseEq_comm (ha : a.IsValue) (hb : b.IsValue) : looseEq a b = looseEq b a := by
  rw [Bool.eq_iff_iff, looseEq_iff ha hb, looseEq_iff hb ha]
  simp only [and_comm]

theorem looseEq_trans (ha : a.IsValue) (hb : b.IsValue) (hc : c.IsValue) (hab : looseEq a b)
    (hbc : looseEq b c) : looseEq a c := by
  obtain ⟨k, hka, hkb⟩ := (looseEq_iff ha hb).mp hab
  obtain ⟨l, hlb, hlc⟩ := (looseEq_iff hb hc).mp hbc
  have hsame : k = l := Option.some.inj (hkb.symm.trans hlb)
  exact (looseEq_iff ha hc).mpr ⟨k, hka, hsame ▸ hlc⟩

/-- A string that spells `nan` equals nothing. -/
theorem looseEq_of_spellsNaN (ha : a.IsValue) (hb : b.IsValue) (h : a.spellsNaN) :
    looseEq a b = false := by
  rw [Bool.eq_false_iff, ne_eq, looseEq_iff ha hb, identity?_eq_none ha h]
  rintro ⟨k, hk, -⟩
  cases hk

/-- An array has its own items in it. -/
theorem holds_of_mem {items : List Json} (hitems : (Json.arr items).IsValue) (ha : a ∈ items) :
    holds (.arr items) a = !a.spellsNaN := by
  have hvalue := hitems.of_mem ha
  change (items.any fun item => looseEq item a) = _
  cases hspells : a.spellsNaN with
  | false =>
    rw [Bool.not_false, List.any_eq_true]
    exact ⟨a, ha, by rw [looseEq_self hvalue, hspells]; rfl⟩
  | true =>
    rw [Bool.not_true, List.any_eq_false]
    intro item hitem
    rw [looseEq_comm (hitems.of_mem hitem) hvalue,
      looseEq_of_spellsNaN hvalue (hitems.of_mem hitem) hspells]
    exact Bool.false_ne_true

/-! ### Cases -/

/-- A value with a bare case of its own selects one of the cases that match it. -/
theorem exists_selected {k : Switch.Config} (hmem : .bare a ∈ k.cases)
    (hmatches : Switch.Case.Matches a (.bare a)) :
    ∃ x ∈ k.cases, x.Matches a ∧ Switch.selected? k a = some x.tag := by
  have hne : k.cases ≠ [] := List.ne_nil_of_mem hmem
  cases hfound : k.cases.findSome? (·.matches? a) with
  | none =>
    have hnot := Switch.Case.matches?_eq_none.mp (List.findSome?_eq_none_iff.mp hfound _ hmem)
    exact absurd hmatches hnot
  | some tag =>
    obtain ⟨x, hx, htag⟩ := List.exists_of_findSome?_eq_some hfound
    obtain ⟨hxa, rfl⟩ := Switch.Case.matches?_eq_some.mp htag
    refine ⟨x, hx, hxa, ?_⟩
    rw [Switch.selected?, Switch.matched?_of_ne_nil hne, hfound]
    rfl

/-- **Equality is an equivalence** between all values but the strings that spell `nan`, which equal
nothing. So an array contains each other one of its items, and a case list with a bare case that is
the value itself selects a case that matches. -/
theorem evaluate_equals (ha : a.IsValue) (hb : b.IsValue) (hc : c.IsValue) :
    evaluate a "equals" a = !a.spellsNaN ∧
    evaluate a "equals" b = evaluate b "equals" a ∧
    (evaluate a "equals" b → evaluate b "equals" c → evaluate a "equals" c) ∧
    (a.spellsNaN → evaluate a "equals" b = false) ∧
    (∀ items, (Json.arr items).IsValue → a ∈ items →
      evaluate (.arr items) "contains" a = !a.spellsNaN) ∧
    (Switch.Case.Matches a (.bare a) ↔ a.spellsNaN = false) ∧
    ∀ config k ctx, Switch.Config.decode (.ofJson config) = .ok k → ctx.resolve k.value = a →
      .bare a ∈ k.cases → a.spellsNaN = false →
        ∃ r, Switch.run config ctx = .ok r ∧ r.data.field "matched" = .bool true ∧
          ∃ x ∈ k.cases, x.Matches a ∧ Walk.caseOf? r.data = some x.tag := by
  have hself : Switch.Case.Matches a (.bare a) ↔ a.spellsNaN = false := by
    change looseEq a a = true ↔ _
    rw [looseEq_self ha]
    cases a.spellsNaN <;> simp
  refine ⟨looseEq_self ha, looseEq_comm ha hb, looseEq_trans ha hb hc,
    looseEq_of_spellsNaN ha hb, fun items hitems hmem => holds_of_mem hitems hmem, hself, ?_⟩
  intro config k ctx hconfig hvalue hmem hspells
  obtain ⟨x, hx, hmatches, hselected⟩ := exists_selected hmem (hself.mpr hspells)
  have hcase := Switch.caseOf?_result k ctx
  rw [hvalue, hselected] at hcase
  refine ⟨_, Switch.run_eq_result hconfig ctx, ?_, x, hx, hmatches, hcase⟩
  simp [Switch.result, hvalue, hselected, Json.field, Json.ofFields, Json.get?, Fields.get?_ofPairs]

/-- Three spellings of one number, one of them in an array and in a case list. -/
theorem evaluate_equals_five :
    let config := Json.obj [("cases", .arr [.str "four", .int 5]), ("value", .int 5)]
    let ctx : NodeContext := { input := .null, vars := .obj [], outputs := [],
                               nodeId := "route", executionId := "", workflowName := "" }
    Json.IsValue (.int 5) ∧ Json.IsValue (.str " 5.0 ") ∧ Json.IsValue (.str "5e0") ∧
    evaluate (.int 5) "equals" (.int 5) = true ∧
    evaluate (.int 5) "equals" (.str "5e0") = true ∧
    evaluate (.arr [.null, .int 5]) "contains" (.int 5) = true ∧
    ∃ r, Switch.run config ctx = .ok r ∧ r.data.field "matched" = .bool true := by
  intro config ctx
  have h5 : Json.IsValue (.int 5) := .int (by decide)
  obtain ⟨hself, -, htrans, -, hcontains, -, hswitch⟩ :=
    evaluate_equals h5 (.str " 5.0 ") (.str "5e0")
  have hitems : (Json.arr [.null, .int 5]).IsValue := .arr (by simp [h5, Json.IsValue.null])
  obtain ⟨r, hr, hmatched, -⟩ :=
    hswitch config ⟨.int 5, [.bare (.str "four"), .bare (.int 5)], none⟩ ctx rfl rfl (by simp) rfl
  exact ⟨h5, .str _, .str _, hself, htrans (by decide +kernel) (by decide +kernel),
    hcontains _ hitems (by simp), r, hr, hmatched⟩

/-- **A string that does not equal itself**, is not contained in an array that holds it, and does not
match a case that is the same string. -/
theorem not_evaluate_equals_self :
    let a := Json.str "nan"
    a.IsValue ∧ evaluate a "equals" a = false ∧ evaluate (.arr [a]) "contains" a = false ∧
      (Switch.Case.bare a).matches? a = none ∧ evaluate a "contains" a = true := by
  intro a
  refine ⟨.str "nan", ?_⟩
  decide +kernel

end Condition

end FlowGraph
