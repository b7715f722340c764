import FlowGraph.Json.Basic
import Mathlib.Data.List.Induction
import Mathlib.Tactic.SplitIfs

/-! # Look-ups in fields

What `Fields.get?` finds after `Fields.insert`: the new value under its name, and under any other
name what was there before. Neither law needs the names to be in order; `pairwise_names_insert` says
that they stay so. `Fields.ofPairs` brings pairs into order: it leaves pairs that are in order as
they are (`ofPairs_of_pairwise`) and loses none if their names differ (`ofPairs_perm`). -/

namespace FlowGraph.Fields

variable {α : Type}

theorem get?_cons (n name : String) (v : α) (rest : Fields α) :
    get? ((n, v) :: rest) name = if n = name then some v else get? rest name := by
  unfold get?
  by_cases h : n = name <;> simp [h]

@[simp] theorem get?_insert_self (name : String) (value : α) :
    ∀ fields : Fields α, get? (insert name value fields) name = some value
  | [] => by simp [insert, get?]
  | (n, v) :: rest => by
    unfold insert
    split_ifs with h1 h2
    · simp [get?_cons]
    · simp [get?_cons]
    · rw [get?_cons, if_neg (Ne.symm h1)]
      exact get?_insert_self name value rest

theorem get?_insert_of_ne {name other : String} (hne : other ≠ name) (value : α) :
    ∀ fields : Fields α, get? (insert name value fields) other = get? fields other
  | [] => by simp [insert, get?, Ne.symm hne]
  | (n, v) :: rest => by
    unfold insert
    split_ifs with h1 h2
    · subst h1
      simp [get?_cons, Ne.symm hne]
    · rw [get?_cons, if_neg (Ne.symm hne)]
    · rw [get?_cons, get?_cons, get?_insert_of_ne hne value rest]

@[simp] theorem ofPairs_concat (pairs : List (String × α)) (p : String × α) :
    ofPairs (pairs ++ [p]) = insert p.1 p.2 (ofPairs pairs) := by
  simp [ofPairs]

/-- Of pairs with one name the last is found. -/
theorem get?_ofPairs (pairs : List (String × α)) (name : String) :
    get? (ofPairs pairs) name = (pairs.reverse.find? fun p => p.1 == name).map (·.2) := by
  induction pairs using List.reverseRecOn with
  | nil => rfl
  | append_singleton pairs p ih =>
    rw [ofPairs_concat, List.reverse_append]
    by_cases h : p.1 = name
    · simp [← h]
    · rw [get?_insert_of_ne (Ne.symm h), ih]
      simp [h]

/-! ### The order of names -/

theorem names_cons (n : String) (v : α) (rest : Fields α) :
    names ((n, v) :: rest) = n :: names rest := rfl

theorem mem_names_insert {name other : String} {value : α} : ∀ {fields : Fields α},
    other ∈ names (insert name value fields) ↔ other = name ∨ other ∈ names fields
  | [] => by simp [insert, names]
  | (n, v) :: rest => by
    unfold insert
    split_ifs with h1 h2
    · simp [names, h1]
    · simp [names]
    · rw [names_cons, names_cons, List.mem_cons, List.mem_cons, mem_names_insert]
      exact or_left_comm

/-- The names stay in order. -/
theorem pairwise_names_insert {name : String} {value : α} : ∀ {fields : Fields α},
    (names fields).Pairwise (· < ·) → (names (insert name value fields)).Pairwise (· < ·)
  | [], _ => List.pairwise_singleton _ _
  | (n, v) :: rest, h => by
    obtain ⟨hn, hrest⟩ := List.pairwise_cons.mp h
    unfold insert
    split_ifs with h1 h2
    · subst h1
      exact h
    · refine List.pairwise_cons.mpr ⟨fun other hother => ?_, h⟩
      rcases List.mem_cons.mp hother with rfl | hother
      · exact h2
      · exact String.lt_trans h2 (hn other hother)
    · refine List.pairwise_cons.mpr ⟨fun other hother => ?_, pairwise_names_insert hrest⟩
      rcases mem_names_insert.mp hother with rfl | hother
      · exact String.not_le.mp fun hle => h1 (String.le_antisymm hle (String.not_lt.mp h2))
      · exact hn other hother

theorem pairwise_names_ofPairs (pairs : List (String × α)) :
    (names (ofPairs pairs)).Pairwise (· < ·) := by
  induction pairs using List.reverseRecOn with
  | nil => exact List.Pairwise.nil
  | append_singleton pairs p ih =>
    rw [ofPairs_concat]
    exact pairwise_names_insert ih

/-- A name behind all others goes to the end. -/
theorem insert_of_forall_lt {name : String} {value : α} : ∀ {fields : Fields α},
    (∀ n ∈ names fields, n < name) → insert name value fields = fields ++ [(name, value)]
  | [], _ => rfl
  | (n, v) :: rest, h => by
    rw [names_cons, List.forall_mem_cons] at h
    unfold insert
    rw [if_neg (String.ne_of_lt h.1).symm, if_neg (String.lt_asymm h.1),
      insert_of_forall_lt h.2, List.cons_append]

/-- Pairs that are in order stay as they are. -/
theorem ofPairs_of_pairwise {fields : Fields α} (h : (names fields).Pairwise (· < ·)) :
    ofPairs fields = fields := by
  induction fields using List.reverseRecOn with
  | nil => rfl
  | append_singleton fields p ih =>
    unfold names at h
    rw [List.map_append, List.pairwise_append] at h
    obtain ⟨hfields, -, hlt⟩ := h
    rw [ofPairs_concat, ih hfields]
    exact insert_of_forall_lt fun n hn => hlt n hn p.1 (by simp)

theorem eq_or_mem_of_mem_insert {name : String} {value : α} {p : String × α} :
    ∀ {fields : Fields α}, p ∈ insert name value fields → p = (name, value) ∨ p ∈ fields
  | [], h => .inl (List.mem_singleton.mp h)
  | (n, v) :: rest, h => by
    unfold insert at h
    split_ifs at h with h1 h2
    · exact (List.mem_cons.mp h).imp_right fun h => List.mem_cons_of_mem _ h
    · exact List.mem_cons.mp h
    · rcases List.mem_cons.mp h with rfl | h
      · exact .inr List.mem_cons_self
      · exact (eq_or_mem_of_mem_insert h).imp_right fun h => List.mem_cons_of_mem _ h

theorem mem_of_mem_ofPairs {pairs : List (String × α)} {p : String × α} (h : p ∈ ofPairs pairs) :
    p ∈ pairs := by
  induction pairs using List.reverseRecOn with
  | nil => exact h
  | append_singleton pairs last ih =>
    rw [ofPairs_concat] at h
    rcases eq_or_mem_of_mem_insert h with rfl | h
    · simp
    · exact List.mem_append_left _ (ih h)

theorem insert_perm {name : String} {value : α} : ∀ {fields : Fields α},
    name ∉ names fields → (insert name value fields).Perm ((name, value) :: fields)
  | [], _ => List.Perm.refl _
  | (n, v) :: rest, h => by
    rw [names_cons, List.mem_cons, not_or] at h
    unfold insert
    rw [if_neg h.1]
    split_ifs
    · exact List.Perm.refl _
    · exact ((insert_perm h.2).cons _).trans (List.Perm.swap _ _ _)

/-- Of pairs with different names all stay. -/
theorem ofPairs_perm {pairs : List (String × α)} (h : (names pairs).Nodup) :
    (ofPairs pairs).Perm pairs := by
  induction pairs using List.reverseRecOn with
  | nil => exact List.Perm.refl _
  | append_singleton pairs p ih =>
    unfold names at h
    rw [List.map_append, List.nodup_append] at h
    obtain ⟨hpairs, -, hne⟩ := h
    have hmem : p.1 ∉ names (ofPairs pairs) := fun hp =>
      hne p.1 (((ih hpairs).map Prod.fst).mem_iff.mp hp) p.1 (by simp) rfl
    rw [ofPairs_concat]
    exact (insert_perm hmem).trans
      (((ih hpairs).cons p).trans (List.perm_append_singleton p pairs).symm)

end FlowGraph.Fields
