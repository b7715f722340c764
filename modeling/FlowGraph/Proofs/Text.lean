import FlowGraph.Text.Blank
import Mathlib.Data.List.DropRight
import Mathlib.Data.List.Infix

/-! # Texts within texts

The searches in a text, said of lists of characters: one list starts another exactly if it is a
prefix of it, and stands somewhere in another exactly if it is an infix of it. A text is split at
the first place where a character stands, if it stands anywhere. A text without blanks at its ends
stays as it is when it is trimmed. -/

namespace FlowGraph.Text

theorem dropStart?_eq_some {cs start rest : List Char} :
    dropStart? cs start = some rest ↔ cs = start ++ rest := by
  induction start generalizing cs with
  | nil => simp [dropStart?]
  | cons p ps ih =>
    cases cs with
    | nil => simp [dropStart?]
    | cons c cs =>
      unfold dropStart?
      split_ifs with h
      · simp [ih, h]
      · simp [h]

theorem isSome_dropStart? {cs start : List Char} :
    (dropStart? cs start).isSome ↔ start <+: cs := by
  rw [Option.isSome_iff_exists]
  simp only [dropStart?_eq_some]
  exact ⟨fun ⟨rest, h⟩ => ⟨rest, h.symm⟩, fun ⟨rest, h⟩ => ⟨rest, h.symm⟩⟩

theorem containsChars_iff {cs part : List Char} : containsChars cs part ↔ part <:+: cs := by
  induction cs with
  | nil => simp [containsChars]
  | cons c cs ih => simp [containsChars, isSome_dropStart?, ih, List.infix_cons_iff]

theorem contains_iff {s part : String} : contains s part ↔ part.toList <:+: s.toList :=
  containsChars_iff

theorem splitFirst_of_notMem {sep : Char} {cs : List Char} (h : sep ∉ cs) :
    splitFirst sep cs = (cs, none) := by
  induction cs with
  | nil => rfl
  | cons c cs ih =>
    obtain ⟨hc, hcs⟩ : sep ≠ c ∧ sep ∉ cs := by simpa using h
    rw [splitFirst, if_neg (Ne.symm hc), ih hcs]

theorem splitFirst_append {sep : Char} {before : List Char} (h : sep ∉ before)
    (after : List Char) : splitFirst sep (before ++ sep :: after) = (before, some after) := by
  induction before with
  | nil => simp [splitFirst]
  | cons c before ih =>
    obtain ⟨hc, hbefore⟩ : sep ≠ c ∧ sep ∉ before := by simpa using h
    rw [List.cons_append, splitFirst, if_neg (Ne.symm hc), ih hbefore]

/-! ### Blanks at the ends -/

/-- Nothing is taken off a text that has no blank at either end. -/
theorem trimChars_eq_self {cs : List Char} (hfirst : ∀ c, cs.head? = some c → isBlank c = false)
    (hlast : ∀ c, cs.getLast? = some c → isBlank c = false) : trimChars cs = cs := by
  have hdrop : cs.dropWhile isBlank = cs := by
    cases cs with
    | nil => rfl
    | cons c cs => exact List.dropWhile_cons_of_neg (by simp [hfirst c rfl])
  have hrdrop : cs.rdropWhile isBlank = cs := List.rdropWhile_eq_self_iff.mpr fun hne => by
    simp [hlast _ (List.getLast?_eq_some_getLast hne)]
  rw [trimChars, hdrop]
  exact hrdrop

theorem isBlank_getLast_of_trimChars {cs : List Char} (h : trimChars cs = cs) {c : Char}
    (hc : cs.getLast? = some c) : isBlank c = false := by
  have hself := List.rdropWhile_idempotent isBlank (cs.dropWhile isBlank)
  rw [show (cs.dropWhile isBlank).rdropWhile isBlank = cs from h] at hself
  obtain ⟨front, rfl⟩ := List.getLast?_eq_some_iff.mp hc
  simpa using List.rdropWhile_eq_self_iff.mp hself (by simp)

/-- Nothing is taken off a trimmed text behind something without blanks. -/
theorem trimChars_append {front path : List Char} (hne : front ≠ [])
    (hfront : ∀ c ∈ front, isBlank c = false) (hpath : trimChars path = path) :
    trimChars (front ++ path) = front ++ path := by
  refine trimChars_eq_self (fun c hc => ?_) fun c hc => ?_
  · rw [List.head?_append_of_ne_nil _ hne] at hc
    exact hfront c (List.mem_of_head? hc)
  · rw [List.getLast?_append, Option.or_eq_some_iff] at hc
    rcases hc with hc | ⟨-, hc⟩
    · exact isBlank_getLast_of_trimChars hpath hc
    · exact hfront c (List.mem_of_getLast? hc)

end FlowGraph.Text
