import FlowGraph.Json.Loose
import FlowGraph.Proofs.Number.Numeral

/-! # JSON values

`Json.IsValue` says that a value is one that JSON can hold, down to all that is inside it: its
integers have 64 bits, and its doubles are finite.

* `IsValue.isSome_number?`: apart from booleans, a value has a number exactly if its text is a
  numeric text. So the text alone tells whether there is a number.
* `IsValue.isNaN_of_number?`: the number is one unless a string spells `nan`. -/

namespace FlowGraph

namespace Json

/-- **A value that JSON can hold.** -/
inductive IsValue : Json → Prop where
  | null : IsValue .null
  | bool (b : Bool) : IsValue (.bool b)
  | int {n : Int} (h : isExact n) : IsValue (.int n)
  | float {d : Double} (h : d.isFinite) : IsValue (.float d)
  | str (s : String) : IsValue (.str s)
  | arr {items : List Json} (h : ∀ j ∈ items, IsValue j) : IsValue (.arr items)
  | obj {fields : List (String × Json)} (h : ∀ p ∈ fields, IsValue p.2) : IsValue (.obj fields)

theorem IsValue.of_mem {items : List Json} (h : (Json.arr items).IsValue) {j : Json}
    (hj : j ∈ items) : j.IsValue := by
  cases h with
  | arr h => exact h j hj

/-! ### Numbers -/

/-- Whether a text without the blanks at its ends is a numeric text. -/
def isNumeric (text : String) : Bool := (Decimal.parseDouble? (Text.trim text)).isSome

/-- A string that is read as the double that is no number. -/
def spellsNaN : Json → Bool
  | .str s => Decimal.spellsNaN (Text.trim s)
  | _ => false

/-- Nothing that starts like a word or a container is a numeric text. -/
theorem isNumeric_cons {c : Char} (cs : List Char) (hblank : Text.isBlank c = false)
    (hdigit : c.isDigit = false) (hmark : c ≠ '.' ∧ c ≠ '-' ∧ c ≠ '+')
    (hletter : c.toLower ≠ 'i' ∧ c.toLower ≠ 'n') :
    isNumeric (String.ofList (c :: cs)) = false := by
  have hdrop : (c :: cs).dropWhile Text.isBlank = c :: cs :=
    List.dropWhile_cons_of_neg (by simp [hblank])
  obtain ⟨rest, hrest⟩ : ∃ rest, Text.trimChars (c :: cs) = c :: rest := by
    refine ⟨(cs.reverse.dropWhile Text.isBlank).reverse, ?_⟩
    have hlast : [c].dropWhile Text.isBlank = [c] := List.dropWhile_cons_of_neg (by simp [hblank])
    unfold Text.trimChars
    rw [hdrop, List.reverse_cons, List.dropWhile_append, hlast]
    split_ifs with hempty
    · simp [List.isEmpty_iff.mp hempty]
    · simp
  unfold isNumeric Text.trim
  rw [String.toList_ofList, hrest, Decimal.parseDouble?_cons rest hdigit hmark hletter]
  rfl

theorem isNumeric_arr (items : List Json) : isNumeric (Json.arr items).text = false := by
  have htext : (Json.arr items).text =
      String.ofList ('[' :: (",".intercalate (compactItems items) ++ "]").toList) := by
    rw [← List.singleton_append, String.ofList_append, String.ofList_toList, ← String.append_assoc]
    rfl
  rw [htext]
  exact isNumeric_cons _ (by decide) (by decide) (by decide) (by decide)

theorem isNumeric_obj (fields : List (String × Json)) :
    isNumeric (Json.obj fields).text = false := by
  have htext : (Json.obj fields).text = String.ofList ('\x7b' ::
      (",".intercalate (compactFields fields) ++ String.singleton '\x7d').toList) := by
    rw [← List.singleton_append, String.ofList_append, String.ofList_toList, ← String.append_assoc]
    rfl
  rw [htext]
  exact isNumeric_cons _ (by decide) (by decide) (by decide) (by decide)

theorem isNumeric_bool (b : Bool) : isNumeric (Json.bool b).text = false := by
  cases b with
  | true => exact isNumeric_cons ['r', 'u', 'e'] (by decide) (by decide) (by decide) (by decide)
  | false =>
    exact isNumeric_cons ['a', 'l', 's', 'e'] (by decide) (by decide) (by decide) (by decide)

theorem isNumeric_int (n : Int) : isNumeric (Json.int n).text := by
  change isNumeric (toString n)
  rw [Numeral.Parts.toString_eq_chars]
  exact Numeral.Parts.isSome_parseDouble?_chars (Numeral.Parts.isWritten_ofInt n)

theorem isNumeric_float {d : Double} (h : d.isFinite) : isNumeric (Json.float d).text := by
  change isNumeric (if d.isFinite then d.exponentText else "null")
  rw [if_pos h, Numeral.Parts.exponentText_eq_chars]
  exact Numeral.Parts.isSome_parseDouble?_chars (Numeral.Parts.isWritten_ofDouble d)

namespace IsValue

variable {j : Json}

/-- **The text alone tells whether there is a number.** -/
theorem isSome_number? (h : j.IsValue) (hbool : ∀ b, j ≠ .bool b) :
    j.number?.isSome = isNumeric j.text := by
  cases h with
  | null => rfl
  | bool b => exact absurd rfl (hbool b)
  | int _ => exact (isNumeric_int _).symm
  | float h => exact (isNumeric_float h).symm
  | str s => rfl
  | arr _ => exact (isNumeric_arr _).symm
  | obj _ => exact (isNumeric_obj _).symm

/-- **The number of a value is one** unless a string spells `nan`. -/
theorem isNaN_of_number? (h : j.IsValue) {x : Double} (hx : j.number? = some x) :
    x.isNaN = j.spellsNaN := by
  cases h with
  | null => cases hx
  | bool b =>
    cases hx
    cases b <;> decide
  | @int n _ =>
    cases hx
    exact Double.isNaN_ofInt n
  | @float d h =>
    cases hx
    have hlt : x.magnitude < Double.infinityMagnitude := of_decide_eq_true h
    exact decide_eq_false (by omega)
  | str s => exact Decimal.isNaN_of_parseDouble? hx
  | arr _ => cases hx
  | obj _ => cases hx

end IsValue

end Json

end FlowGraph
